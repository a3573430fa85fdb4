import HandleLedger.Proofs.Interception.Exchange
import Mathlib.Data.List.Forall2

/-!
# Only verdicts matter

A layer hands its sinks reports and asks them for verdicts, and it uses nothing but the verdicts. So
two runs with the same calls and outcomes come to the same if the sinks of their instances judge
alike, whatever those do with the reports. The main statement, `Layer.only_verdicts_matter`, says so
for sinks that log and gives two consequences.

Both runs are brought to a third one, in which every sink is replaced by its bare verdicts
(`Sink.bare`); an exchange that leaves verdicts alone goes through calls and runs
(`Layer.responses_exchange`, `Layer.play_exchange`).

That a run with lenient sinks lets everything through is drawn from the same facts. An exchange
that moves all sinks but the lenient ones (`Sink.mark`) moves nothing in such a run, so every sink
that is asked in its course is lenient, and no passage has to be gone through to see that.
-/

set_option autoImplicit false

namespace HandleLedger

variable {f : Sink → Sink}

/-! ## Sinks -/

namespace Sink

/-- The sink answers as one that logs under some configuration does. -/
def Emulates (t s : Sink) : Prop :=
  ∃ reporting, s.policy = .logging reporting ∧
    ∀ r, t.verdict r = true ↔
      r.severity = .error ∧ reporting.enabled .error = true ∧ reporting.skipOnError = true

/-- The sink logs, and errors block calls. -/
def LogsAndBlocks (s : Sink) : Prop :=
  ∃ reporting, s.policy = .logging reporting ∧ reporting.enabled .error = true ∧
    reporting.skipOnError = true

/-- The sink logs, and either errors are filtered out or they do not block calls. -/
def OnlyLogs (s : Sink) : Prop :=
  ∃ reporting, s.policy = .logging reporting ∧
    (reporting.enabled .error = false ∨ reporting.skipOnError = false)

/-- The sink refuses nothing. -/
def Lenient (s : Sink) : Prop := ∀ r, s.verdict r = false

/-- A sink that logs refuses the errors that it logs, if errors block calls. -/
theorem verdict_of_logging {s : Sink} {reporting : Reporting} (hs : s.policy = .logging reporting)
    (r : Report) :
    s.verdict r = true ↔
      r.severity = .error ∧ reporting.enabled .error = true ∧ reporting.skipOnError = true := by
  rw [verdict, hs, Bool.and_eq_true, Bool.and_eq_true, beq_iff_eq]
  constructor
  · rintro ⟨⟨henabled, herror⟩, hskip⟩
    exact ⟨herror, herror ▸ henabled, hskip⟩
  · rintro ⟨herror, henabled, hskip⟩
    exact ⟨⟨herror.symm ▸ henabled, herror⟩, hskip⟩

theorem Emulates.verdict_eq {s t : Sink} (h : t.Emulates s) : t.verdict = s.verdict := by
  obtain ⟨reporting, hs, ht⟩ := h
  funext r
  rw [Bool.eq_iff_iff, ht r, verdict_of_logging hs]

theorem emulates_of_memory {s t : Sink} (hs : s.LogsAndBlocks) (ht : t.policy = .memory) :
    t.Emulates s := by
  obtain ⟨reporting, hs, henabled, hskip⟩ := hs
  refine ⟨reporting, hs, fun r => ?_⟩
  rw [verdict, ht, beq_iff_eq]
  exact (and_iff_left ⟨henabled, hskip⟩).symm

theorem OnlyLogs.lenient {s : Sink} (h : s.OnlyLogs) : s.Lenient := by
  obtain ⟨reporting, hs, hmild⟩ := h
  intro r
  rw [← Bool.not_eq_true, verdict_of_logging hs]
  rintro ⟨-, henabled, hskip⟩
  rcases hmild with hfiltered | hoff
  · rw [hfiltered] at henabled
    cases henabled
  · rw [hoff] at hskip
    cases hskip

/-- The sink that is nothing but the verdicts of another one. -/
def bare (s : Sink) : Sink := ⟨none, .custom s.verdict⟩

theorem faithful_bare : Faithful bare := fun _ _ => rfl

theorem bare_eq_of_verdict_eq {s t : Sink} (h : s.verdict = t.verdict) : s.bare = t.bare := by
  rw [bare, bare, h]

open Classical in
/-- Give every sink that does not have the property another channel. -/
noncomputable def mark (P : Sink → Prop) (s : Sink) : Sink :=
  if P s then s else ⟨if s.channel = none then some 0 else none, s.policy⟩

theorem faithful_mark (P : Sink → Prop) : Faithful (mark P) := by
  intro s r
  rw [mark]
  split <;> rfl

/-- A marked sink is none of those that stay as they are. -/
theorem mark_eq_self_iff {P : Sink → Prop} {s : Sink} : mark P s = s ↔ P s := by
  rw [mark]
  split
  · rename_i hs
    exact iff_of_true rfl hs
  · rename_i hs
    refine iff_of_false (fun heq => ?_) hs
    have hchannel := congrArg channel heq
    revert hchannel
    cases s.channel <;> simp

end Sink

/-! ## Two runs -/

/-- The two turns are the same, but an instance may get another sink in the second one. -/
inductive Turn.SameBut (R : Option Sink → Option Sink → Prop) : Turn → Turn → Prop
  | bind (pairs : List (Handle × DispatchKey)) : SameBut R (.bind pairs) (.bind pairs)
  | createInstance (custom : Bool) (s t : Option Sink) (outcome : Except ResultCode Handle)
    (h : R s t) :
    SameBut R (.call ⟨.createInstance custom s, outcome⟩) (.call ⟨.createInstance custom t, outcome⟩)
  | call (c : Call) (h : ∀ custom sink, c.request ≠ .createInstance custom sink) :
    SameBut R (.call c) (.call c)

theorem Turn.SameBut.imp {R R' : Option Sink → Option Sink → Prop} (h : ∀ s t, R s t → R' s t)
    {t u : Turn} (htu : t.SameBut R u) : t.SameBut R' u := by
  cases htu with
  | bind pairs => exact .bind pairs
  | createInstance custom s t outcome hst => exact .createInstance custom s t outcome (h s t hst)
  | call c hc => exact .call c hc

/-- What comes back from a call, and how often the intercepted call runs. -/
structure Response where
  shape : Shape
  result : shape.Outcome
  runs : Nat

/-- The call runs once, and its outcome is handed back. -/
def Turn.unhindered? : Turn → Option Response
  | .bind _ => none
  | .call c => some ⟨c.request.shape, c.outcome, 1⟩

/-- An instance that the turn creates gets a sink with the property. -/
def Turn.Gives (P : Sink → Prop) (fallback : Sink) : Turn → Prop
  | .bind _ => True
  | .call c => ∀ custom sink, c.request = .createInstance custom sink → P (sink.getD fallback)

/-- The books with one and the same sink everywhere. -/
def Ledger.muted (l : Ledger) : Ledger := l.exchange fun _ => ⟨none, .memory⟩

namespace Layer

/-- The response of the layer to a call. -/
def respond (l : Layer) (c : Call) : Response :=
  ⟨c.request.shape, (l.intercept c).result, (l.intercept c).trace.calls.length⟩

/-- The responses of the layer to the calls of a run. -/
def responses (l : Layer) : List Turn → List Response
  | [] => []
  | .bind pairs :: ts => (l.bind pairs).responses ts
  | .call c :: ts => l.respond c :: (l.take (.call c)).responses ts

/-- Both layers respond alike to their runs, and after each turn their books differ in nothing but
the sinks. -/
structure RunsAlike (l : Layer) (ts : List Turn) (l' : Layer) (us : List Turn) : Prop where
  responses_eq : l.responses ts = l'.responses us
  books_eq : ∀ n, (l.play (ts.take n)).ledger.muted = (l'.play (us.take n)).ledger.muted

end Layer

/-! ## Runs under other sinks -/

/-- The call with another sink for the instance that it creates. -/
def Call.exchange (f : Sink → Sink) (fallback : Sink) : Call → Call
  | ⟨.createInstance custom sink, outcome⟩ =>
    ⟨.createInstance custom (some (f (sink.getD fallback))), outcome⟩
  | c => c

theorem Call.exchange_of_ne {c : Call} (hc : ∀ custom sink, c.request ≠ .createInstance custom sink)
    (fallback : Sink) : c.exchange f fallback = c := by
  obtain ⟨r, outcome⟩ := c
  cases r with
  | createInstance custom sink => exact absurd rfl (hc custom sink)
  | _ => rfl

/-- The turn with another sink for the instance that it creates. -/
def Turn.exchange (f : Sink → Sink) (fallback : Sink) : Turn → Turn
  | .bind pairs => .bind pairs
  | .call c => .call (c.exchange f fallback)

namespace Layer

/-- An instance that is created without a sink gets the same one throughout a run. -/
theorem defaultSink_take (l : Layer) (t : Turn) : (l.take t).defaultSink = l.defaultSink := by
  rw [defaultSink, config_take]
  rfl

section Exchange

variable (config : Config) (hf : Sink.Faithful f)

/-- A passage under other sinks gives the same response and leaves the same layer, up to the
sinks. -/
theorem settle_of_exchanges {s : Shape} {p q : Passage s} (h : p.Exchanges f q)
    (outcome : s.Outcome) (l : Layer) :
    let step := p.run outcome l.ledger
    let step' := q.run outcome (l.ledger.exchange f)
    Response.mk s step'.value step'.trace.calls.length =
        ⟨s, step.value, step.trace.calls.length⟩ ∧
      Layer.mk step'.ledger config l.dispatch =
        exchange f config { l with ledger := step.ledger } := by
  intro step step'
  have hstep : step' = step.exchange f := h.run outcome l.ledger
  rw [hstep]
  refine ⟨?_, rfl⟩
  show Response.mk s step.value (Trace.calls (Trace.exchange f step.trace)).length = _
  rw [Trace.calls_exchange, List.length_map]

include hf

theorem settle_exchange (l : Layer) (c : Call) :
    (l.exchange f config).respond (c.exchange f l.defaultSink) = l.respond c ∧
      (l.exchange f config).take (.call (c.exchange f l.defaultSink)) =
        (l.take (.call c)).exchange f config := by
  by_cases hc : ∃ custom sink, c.request = .createInstance custom sink
  · obtain ⟨r, outcome⟩ := c
    obtain ⟨custom, sink, rfl⟩ := hc
    exact settle_of_exchanges config (l.exchanges_createInstance config custom sink) outcome l
  · have hne : ∀ custom sink, c.request ≠ .createInstance custom sink :=
      fun custom sink heq => hc ⟨custom, sink, heq⟩
    rw [Call.exchange_of_ne hne]
    exact settle_of_exchanges config (l.exchanges_passage config hf hne) c.outcome l

theorem take_exchange (l : Layer) (t : Turn) :
    (l.exchange f config).take (t.exchange f l.defaultSink) = (l.take t).exchange f config := by
  cases t with
  | bind pairs => rfl
  | call c => exact (settle_exchange config hf l c).2

/-- A run under other sinks gets the same responses. -/
theorem responses_exchange (ts : List Turn) (l : Layer) :
    (l.exchange f config).responses (ts.map (Turn.exchange f l.defaultSink)) = l.responses ts := by
  -- a run goes on from the layer that its first turn leaves, so the induction is for all layers
  induction ts generalizing l with
  | nil => rfl
  | cons t ts ih =>
    cases t with
    | bind pairs => exact ih (l.bind pairs)
    | call c =>
      obtain ⟨hrespond, htake⟩ := settle_exchange config hf l c
      have hrest := ih (l.take (.call c))
      rw [← htake] at hrest
      exact congrArg₂ List.cons hrespond hrest

/-- A run under other sinks leads to the same layer, up to the sinks. -/
theorem play_exchange (ts : List Turn) (l : Layer) :
    (l.exchange f config).play (ts.map (Turn.exchange f l.defaultSink)) =
      (l.play ts).exchange f config := by
  induction ts generalizing l with
  | nil => rfl
  | cons t ts ih =>
    have hrest := ih (l.take t)
    rw [← take_exchange config hf] at hrest
    rw [l.defaultSink_take t] at hrest
    exact hrest

end Exchange

end Layer

theorem Ledger.muted_exchange (f : Sink → Sink) (l : Ledger) : (l.exchange f).muted = l.muted :=
  Ledger.exchange_exchange ..

namespace Layer

/-- Fresh layers run alike if their turns are the same once sinks are nothing but verdicts. -/
theorem runsAlike_of_bare {config config' : Config} {ts us : List Turn}
    (h : ts.map (Turn.exchange .bare (ofConfig config).defaultSink) =
      us.map (Turn.exchange .bare (ofConfig config').defaultSink)) :
    (ofConfig config).RunsAlike ts (ofConfig config') us where
  responses_eq := by
    have hts := responses_exchange config Sink.faithful_bare ts (ofConfig config)
    have hus := responses_exchange config Sink.faithful_bare us (ofConfig config')
    rw [← hts, ← hus, h]
    rfl
  books_eq n := by
    -- both runs lead to one layer once sinks are bare, and muting forgets that they were made so
    have hts := play_exchange config Sink.faithful_bare (ts.take n) (ofConfig config)
    have hus := play_exchange config Sink.faithful_bare (us.take n) (ofConfig config')
    rw [List.map_take, h, ← List.map_take] at hts
    have hboth : ((ofConfig config).play (ts.take n)).exchange .bare config =
        ((ofConfig config').play (us.take n)).exchange .bare config :=
      hts.symm.trans hus
    have hbooks := congrArg (fun l => l.ledger.muted) hboth
    exact (Ledger.muted_exchange ..).symm.trans (hbooks.trans (Ledger.muted_exchange ..))

end Layer

section SameBut

variable {R : Option Sink → Option Sink → Prop} {d d' : Sink}
  (hR : ∀ s t, R s t → (s.getD d).verdict = (t.getD d').verdict)

include hR

/-- Turns that differ in sinks that judge alike become the same. -/
theorem Turn.SameBut.exchange_eq {t u : Turn} (h : t.SameBut R u) :
    t.exchange .bare d = u.exchange .bare d' := by
  cases h with
  | bind pairs => rfl
  | createInstance custom s s' outcome hs =>
    have hbare : (s.getD d).bare = (s'.getD d').bare := Sink.bare_eq_of_verdict_eq (hR s s' hs)
    show Turn.call ⟨.createInstance custom (some (s.getD d).bare), outcome⟩ = _
    rw [hbare]
    rfl
  | call c hc => rw [Turn.exchange, Turn.exchange, Call.exchange_of_ne hc, Call.exchange_of_ne hc]

theorem map_exchange_of_forall₂ {ts us : List Turn} (h : List.Forall₂ (Turn.SameBut R) ts us) :
    ts.map (Turn.exchange .bare d) = us.map (Turn.exchange .bare d') := by
  induction h with
  | nil => rfl
  | cons htu _ ih => rw [List.map_cons, List.map_cons, htu.exchange_eq hR, ih]

end SameBut

/-! ## Lenient sinks -/

namespace Layer

variable {P : Sink → Prop} {l : Layer}

/-- No sink in the books can be moved by an exchange that moves all sinks without the property. -/
def Marked (P : Sink → Prop) (l : Layer) : Prop := l.exchange (.mark P) l.config = l

theorem marked_ofConfig (P : Sink → Prop) (config : Config) : (ofConfig config).Marked P := rfl

theorem take_exchange_mark {t : Turn} (ht : t.Gives P l.defaultSink) :
    l.take (t.exchange (.mark P) l.defaultSink) = l.take t := by
  cases t with
  | bind pairs => rfl
  | call c =>
    obtain ⟨r, outcome⟩ := c
    cases r with
    | createInstance custom sink =>
      have hstays : (sink.getD l.defaultSink).mark P = sink.getD l.defaultSink :=
        Sink.mark_eq_self_iff.mpr (ht custom sink rfl)
      show l.take (.call ⟨.createInstance custom (some ((sink.getD l.defaultSink).mark P)), _⟩) = _
      rw [hstays]
      rfl
    | _ => rfl

theorem Marked.take (hl : l.Marked P) {t : Turn} (ht : t.Gives P l.defaultSink) :
    (l.take t).Marked P := by
  have htake := take_exchange l.config (Sink.faithful_mark P) l t
  rw [hl, take_exchange_mark ht] at htake
  rw [Marked, config_take]
  exact htake.symm

/-- A check of a marked layer asks lenient sinks only, so it lets the call through. -/
theorem Marked.skip_eq_false (hl : l.Marked Sink.Lenient) (r : Request) :
    (r.passage l).check.skip = false := by
  by_cases hinstance : ∃ custom sink, r = .createInstance custom sink
  · obtain ⟨custom, sink, rfl⟩ := hinstance
    rfl
  by_cases hqueue : ∃ device family, r = .getDeviceQueue device family
  · obtain ⟨device, family, rfl⟩ := hqueue
    rfl
  -- the exchange leaves the layer alone, so it leaves the check alone with every sink in its trace
  have hcheck := (l.exchanges_passage l.config (Sink.faithful_mark Sink.Lenient)
    fun custom sink heq => hinstance ⟨custom, sink, heq⟩).check
  rw [hl] at hcheck
  have htrace : (r.passage l).check.trace.map (Event.exchange (.mark Sink.Lenient)) =
      (r.passage l).check.trace.map id := by
    rw [List.map_id]
    exact (congrArg Check.trace hcheck).symm
  have hheeds := (l.gated_passage fun device family heq => hqueue ⟨device, family, heq⟩).heeds
  rw [hheeds.skip_eq, List.any_eq_false]
  intro e he
  have hstays : e.exchange (.mark Sink.Lenient) = e := List.map_inj_left.mp htrace e he
  cases e with
  | report sink report =>
    have hsink : sink.mark Sink.Lenient = sink := (Event.report.inj hstays).1
    exact Bool.eq_false_iff.mp (Sink.mark_eq_self_iff.mp hsink report)
  | log entry => exact Bool.false_ne_true
  | call seen => exact Bool.false_ne_true

theorem respond_of_not_skip {c : Call} (hskip : (c.request.passage l).check.skip = false) :
    l.respond c = ⟨c.request.shape, c.outcome, 1⟩ := by
  have hcalls : (l.intercept c).trace.calls = [((c.request.passage l).prepare l.ledger).ledger] :=
    (l.sorted_passage c.request).calls_of_not_skip hskip
  have hresult : (l.intercept c).result = c.outcome :=
    congrArg Step.value (Passage.run_of_not_skip hskip c.outcome l.ledger)
  rw [respond, hcalls, hresult]
  rfl

/-- A run whose instances get lenient sinks is never hindered. -/
theorem Marked.responses_eq (hl : l.Marked Sink.Lenient) {ts : List Turn}
    (hts : ∀ t ∈ ts, t.Gives Sink.Lenient l.defaultSink) :
    l.responses ts = ts.filterMap Turn.unhindered? := by
  induction ts generalizing l with
  | nil => rfl
  | cons t ts ih =>
    have hgives := hts t List.mem_cons_self
    have hrest := ih (hl.take hgives) fun u hu =>
      (l.defaultSink_take t).symm ▸ hts u (List.mem_cons_of_mem _ hu)
    cases t with
    | bind pairs => exact hrest
    | call c =>
      show l.respond c :: _ = _
      rw [respond_of_not_skip (hl.skip_eq_false c.request), hrest]
      rfl

/-! ## The two runs compared -/

/-- Two fresh layers are taken through the same calls with the same outcomes. If the instances of the
one log their reports under some configuration each, and those of the other answer as that
configuration says, then the same calls run, all results are the same, and after every turn the
books are the same apart from the sinks. In particular a sink that logs errors and lets them block
calls does as a memory sink does; and if errors are filtered out or do not block calls, every call
of every run goes through. -/
theorem only_verdicts_matter (config config' : Config) :
    let l := ofConfig config
    let l' := ofConfig config'
    (∀ ts us, List.Forall₂ (Turn.SameBut fun s t =>
        (t.getD l'.defaultSink).Emulates (s.getD l.defaultSink)) ts us → l.RunsAlike ts l' us) ∧
    (∀ ts us, List.Forall₂ (Turn.SameBut fun s t =>
        (s.getD l.defaultSink).LogsAndBlocks ∧ (t.getD l'.defaultSink).policy = .memory) ts us →
      l.RunsAlike ts l' us) ∧
    ∀ ts, (∀ t ∈ ts, t.Gives Sink.OnlyLogs l.defaultSink) →
      l.responses ts = ts.filterMap Turn.unhindered? := by
  intro l l'
  have halike : ∀ ts us, List.Forall₂ (Turn.SameBut fun s t =>
      (t.getD l'.defaultSink).Emulates (s.getD l.defaultSink)) ts us → l.RunsAlike ts l' us := by
    intro ts us h
    apply runsAlike_of_bare
    refine map_exchange_of_forall₂ ?_ h
    intro s t hst
    exact (Sink.Emulates.verdict_eq hst).symm
  refine ⟨halike, ?_, ?_⟩
  · intro ts us h
    apply halike
    exact h.imp fun t u htu => htu.imp fun s s' hs => Sink.emulates_of_memory hs.1 hs.2
  · intro ts hts
    refine (marked_ofConfig Sink.Lenient config).responses_eq fun t ht => ?_
    have hgives := hts t ht
    cases t with
    | bind pairs => trivial
    | call c => exact fun custom sink hc => (hgives custom sink hc).lenient

/-- An instance is created, and then another handle is used in its place. -/
def strayRun (sink : Option Sink) : List Turn :=
  [.bind [(1, 10), (7, 10)], .call ⟨.createInstance false sink, .ok 1⟩,
    .call ⟨.enumeratePhysicalDevices 7, .ok [8]⟩]

/-- The log refuses the second call, as a memory sink would. -/
theorem stray_handle_refused_alike :
    (ofConfig ⟨.default⟩).RunsAlike (strayRun none) (ofConfig ⟨.default⟩)
        (strayRun (some ⟨some 0, .memory⟩)) ∧
      ((ofConfig ⟨.default⟩).responses (strayRun none)).map (·.runs) = [1, 0] := by
  obtain ⟨-, hmemory, -⟩ := only_verdicts_matter ⟨.default⟩ ⟨.default⟩
  refine ⟨hmemory _ _ (.cons (.bind _) (.cons ?_ (.cons (.call _ ?_) .nil))), by decide +kernel⟩
  · exact .createInstance false none _ (.ok 1) ⟨⟨.default, rfl, by decide, rfl⟩, rfl⟩
  · intro custom sink heq
    cases heq

end Layer

end HandleLedger
