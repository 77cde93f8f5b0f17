import TexLog.Proofs.Guarded

/-!
# What is returned, what is delivered and what is counted

A scanner delivers each diagnostic once and returns it once: over any sequence of requests, what was
delivered is what was returned, and the counts are those of the kinds that were delivered
(`serveAll_delivers`). What was delivered stays in the outbox, or it is handed on to a listener that
may do with it what it likes (`serveAllFor`). The scanner does not notice the difference, since no
request looks at what has been delivered (`serve_withOutbox`).
-/

namespace TexLog

/-- The counts go up by the numbers of what is delivered. -/
theorem Outbox.get_delivered_deliverAll (outbox : Outbox) (diagnostics : List Diagnostic)
    (kind : Kind) :
    (outbox.deliverAll diagnostics).delivered.get kind =
      outbox.delivered.get kind + diagnostics.countP (·.kind = kind) := by
  induction diagnostics generalizing outbox with
  | nil => rfl
  | cons diagnostic diagnostics ih =>
    refine (ih _).trans ?_
    rw [List.countP_cons, deliver, Tally.get_count]
    simp only [decide_eq_true_eq]
    omega

/-- What is taken out of an outbox before something is delivered may as well be taken out after
that. -/
theorem Outbox.empty_deliverAll (outbox : Outbox) (diagnostics : List Diagnostic) :
    (outbox.empty.deliverAll diagnostics).empty = (outbox.deliverAll diagnostics).empty := by
  suffices h : ∀ other : Outbox, other.delivered = outbox.delivered →
      (other.deliverAll diagnostics).empty = (outbox.deliverAll diagnostics).empty from h _ rfl
  induction diagnostics generalizing outbox with
  | nil => intro other hcounts; simp [empty, hcounts]
  | cons diagnostic diagnostics ih =>
    intro other hcounts
    exact ih (outbox.deliver diagnostic) _ (by simp [deliver, hcounts])

namespace Scanner

/-! ## Requests with another outbox -/

/-- What comes on a channel does the same whatever has been delivered. -/
theorem feedFrom_withOutbox (scanner : Scanner) (outbox : Outbox) (channel : Channel)
    (text : Text) :
    (scanner.withOutbox outbox).feedFrom channel text =
      redirect outbox (scanner.feedFrom channel text) := by
  rw [feedFrom_eq, feedFrom_eq]
  split
  · exact scanner.feed_withOutbox outbox text
  · rfl

/-- **A request does the same whatever has been delivered.** -/
theorem serve_withOutbox (scanner : Scanner) (outbox : Outbox) (request : Request) :
    (scanner.withOutbox outbox).serve request = redirectAll outbox (scanner.serve request) := by
  cases request with
  | line text => simp only [serve, feed_withOutbox]; rfl
  | output channel text => simp only [serve, feedFrom_withOutbox]; rfl
  | lines texts => exact scanner.feedLines_withOutbox outbox texts
  | log text flush => exact scanner.scan_withOutbox outbox text flush
  | ending => simp only [serve, finish_withOutbox]; rfl
  | reset => rfl

/-- What a request returns is delivered. -/
theorem outbox_serve (scanner : Scanner) (request : Request) :
    (scanner.serve request).1.joiner.outbox =
      scanner.joiner.outbox.deliverAll (scanner.serve request).2 :=
  congrArg (·.1.joiner.outbox) (scanner.serve_withOutbox scanner.joiner.outbox request)

/-- What requests return is delivered, in the order of the requests. -/
theorem outbox_serveAll (scanner : Scanner) (requests : List Request) :
    (scanner.serveAll requests).1.joiner.outbox =
      scanner.joiner.outbox.deliverAll (scanner.serveAll requests).2.flatten := by
  induction requests using List.reverseRecOn with
  | nil => rfl
  | append_singleton requests last ih =>
    simp only [serveAll_concat, outbox_serve, ih, List.flatten_append, List.flatten_singleton,
      Outbox.deliverAll_append]

/-! ## Listeners -/

/-- What becomes of a listener when it is told of a diagnostic. -/
abbrev Listener (σ : Type) := σ → Diagnostic → σ

section
variable {σ : Type} (listener : Listener σ)

/-- Hands on what has been delivered: the listener is told of it, and the outbox is emptied. -/
def handOn (scanner : Scanner) (state : σ) : Scanner × σ :=
  (scanner.withOutbox scanner.joiner.outbox.empty, scanner.received.foldl listener state)

/-- Does what is asked for, for a listener that is told of what is delivered. -/
def serveFor (scanner : Scanner) (state : σ) (request : Request) :
    (Scanner × σ) × List Diagnostic :=
  let (scanner, answer) := scanner.serve request
  (scanner.handOn listener state, answer)

/-- Deals with requests, one after the other, for a listener. The result has what each of them
returns. -/
def serveAllFor (scanner : Scanner) (state : σ) (requests : List Request) :
    (Scanner × σ) × List (List Diagnostic) :=
  requests.foldl
    (fun (served, answers) request =>
      let (served, answer) := served.1.serveFor listener served.2 request
      (served, answers ++ [answer]))
    ((scanner, state), [])

/-- The last of several requests is served after the others. -/
theorem serveAllFor_concat (scanner : Scanner) (state : σ) (requests : List Request)
    (last : Request) :
    let before := scanner.serveAllFor listener state requests
    scanner.serveAllFor listener state (requests ++ [last]) =
      ((before.1.1.serveFor listener before.1.2 last).1,
        before.2 ++ [(before.1.1.serveFor listener before.1.2 last).2]) := by
  simp [serveAllFor]

/-- A request does the same if a listener has been told of what was delivered before, and the
listener is then told of what the request delivers. -/
theorem serveFor_handOn (scanner : Scanner) (state : σ) (request : Request) :
    let handed := scanner.handOn listener state
    handed.1.serveFor listener handed.2 request =
      ((scanner.serve request).1.handOn listener state, (scanner.serve request).2) := by
  intro handed
  have hserve : handed.1.serve request = redirectAll _ (scanner.serve request) :=
    scanner.serve_withOutbox _ request
  have houtbox := scanner.outbox_serve request
  rw [serveFor, hserve]
  refine Prod.ext (Prod.ext ?_ ?_) rfl
  · -- both outboxes are empty, and the counts are the same
    refine congrArg (scanner.serve request).1.withOutbox ?_
    rw [houtbox]
    exact Outbox.empty_deliverAll ..
  · have hreceived : (scanner.serve request).1.received =
        scanner.received ++ (scanner.serve request).2 :=
      (congrArg Outbox.received houtbox).trans (Outbox.received_deliverAll ..)
    have hanswer :
        (redirectAll scanner.joiner.outbox.empty (scanner.serve request)).1.received =
          (scanner.serve request).2 := Outbox.received_deliverAll ..
    calc (redirectAll _ (scanner.serve request)).1.received.foldl listener handed.2
        = (scanner.serve request).2.foldl listener (scanner.received.foldl listener state) := by
          rw [hanswer]
          rfl
      _ = (scanner.serve request).1.received.foldl listener state := by
          rw [hreceived, List.foldl_append]

/-- **A scanner does not notice whether there is a listener.** With one it returns the same and is
left as without one, but for what was delivered, which the listener has been told of. -/
theorem serveAllFor_eq (settings : Settings) (state : σ) (requests : List Request) :
    let served := (ofSettings settings).serveAll requests
    (ofSettings settings).serveAllFor listener state requests =
      (served.1.handOn listener state, served.2) := by
  induction requests using List.reverseRecOn with
  | nil => rfl
  | append_singleton requests last ih =>
    simp only [serveAllFor_concat, serveAll_concat, ih, serveFor_handOn]

end

/-- **What is returned, what is delivered and what is counted agree.** Whatever is asked of a
scanner, it delivers the diagnostics that it returns, in this order and each once, and the count of
a kind is the number of diagnostics of that kind that it has ever delivered. It is the same for a
listener, which is told of each diagnostic that is returned, in this order and each once. Since the
requests may end anywhere, also inside a list of lines, this holds at every point of a run. -/
theorem serveAll_delivers (settings : Settings) (requests : List Request) :
    let served := (ofSettings settings).serveAll requests
    served.1.received = served.2.flatten ∧
      (∀ kind, served.1.joiner.outbox.delivered.get kind =
        served.1.received.countP (·.kind = kind)) ∧
      ∀ {σ : Type} (listener : Listener σ) (state : σ),
        let told := (ofSettings settings).serveAllFor listener state requests
        told.2 = served.2 ∧ told.1.2 = told.2.flatten.foldl listener state ∧
          ∀ kind, told.1.1.joiner.outbox.delivered.get kind =
            told.2.flatten.countP (·.kind = kind) := by
  intro served
  have houtbox : served.1.joiner.outbox = Outbox.deliverAll {} served.2.flatten :=
    outbox_serveAll ..
  have hreceived : served.1.received = served.2.flatten :=
    (congrArg Outbox.received houtbox).trans (Outbox.received_deliverAll ..)
  have hcounts (kind : Kind) : served.1.joiner.outbox.delivered.get kind =
      served.2.flatten.countP (·.kind = kind) := by
    rw [houtbox, Outbox.get_delivered_deliverAll]
    cases kind <;> exact Nat.zero_add _
  refine ⟨hreceived, fun kind => by rw [hreceived, hcounts], fun listener state => ?_⟩
  intro told
  have htold : told = (served.1.handOn listener state, served.2) :=
    serveAllFor_eq listener settings state requests
  rw [htold]
  exact ⟨rfl, congrArg (List.foldl listener state) hreceived, hcounts⟩

end Scanner

end TexLog
