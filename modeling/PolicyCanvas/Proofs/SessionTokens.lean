import PolicyCanvas.DryRun.Checker

/-!
# Tokens of a session

A session may be asked anything in any order, and a token may be used as often as one likes, also
after its run was superseded. Every begin and every reset counts the session on by one, so a token
is current just when none of them came after the begin that issued it (`isCurrent_iff`). From this
follows what is kept and what is shown after any events (`disciplined`).
-/

namespace PolicyCanvas.DryRun.Session

/-- What can be asked of a session. -/
inductive Event where
  | begin
  | complete (t : Token) (r : Report)
  | reset
  | isCurrent (t : Token)
  | status
  | report

namespace Event

/-- A begin or a reset; both supersede the runs before. -/
def supersedes : Event → Bool
  | begin | reset => true
  | complete .. | isCurrent _ | status | report => false

/-- The token that is handed in. -/
def token? : Event → Option Token
  | complete t _ | isCurrent t => some t
  | begin | reset | status | report => none

end Event

def step (s : Session) : Event → Session
  | .begin => s.begin.1
  | .complete t r => (s.complete t r).1
  | .reset => s.reset
  | .isCurrent _ | .status | .report => s

/-- The session after these events, the latest of which comes first. -/
def after : List Event → Session
  | [] => new
  | e :: earlier => (after earlier).step e

/-- The tokens that were issued by these events, the latest first. -/
def issued : List Event → List Token
  | [] => []
  | .begin :: earlier => (after earlier).begin.2 :: issued earlier
  | _ :: earlier => issued earlier

/-- Only tokens that were issued before are handed in. -/
def UsesIssued : List Event → Prop
  | [] => True
  | e :: earlier => (∀ t ∈ e.token?, t ∈ issued earlier) ∧ UsesIssued earlier

def decideUsesIssued : (events : List Event) → Decidable (UsesIssued events)
  | [] => .isTrue trivial
  | _ :: earlier =>
    have := decideUsesIssued earlier
    inferInstanceAs (Decidable (_ ∧ _))

instance : DecidablePred UsesIssued := decideUsesIssued

/-- The report came with the token of the latest begin; since then nothing was begun or reset, and
no other report came with this token. -/
def Reported (events : List Event) (r : Report) : Prop :=
  ∃ later between earlier,
    events = later ++ .complete (after earlier).begin.2 r :: (between ++ .begin :: earlier) ∧
      (∀ e ∈ later ++ between, e.supersedes = false) ∧
        ∀ r', .complete (after earlier).begin.2 r' ∉ later

/-- What a session does with its tokens and shows of its runs after these events. -/
structure Disciplined (events : List Event) : Prop where
  distinct : (issued events).Nodup
  /-- The token of a begin is current as long as nothing supersedes its run. -/
  isCurrent_iff : ∀ later earlier, events = later ++ .begin :: earlier →
    ((after events).isCurrent (after earlier).begin.2 = true ↔ ∀ e ∈ later, e.supersedes = false)
  complete_iff : ∀ t r, ((after events).complete t r).2 = true ↔ (after events).isCurrent t = true
  kept : ∀ t r, ((after events).complete t r).2 = true →
    (after (.complete t r :: events)).status = r.status ∧
      (after (.complete t r :: events)).report? = some r
  dropped : ∀ t r, ((after events).complete t r).2 = false →
    after (.complete t r :: events) = after events
  reported : ∀ r, (after events).report? = some r →
    (after events).status = r.status ∧ Reported events r
  /-- Without a report the latest begin or reset tells the status. -/
  unreported : (after events).report? = none →
    (after events).status =
      match events.find? Event.supersedes with
      | some .begin => .running
      | _ => .idle

theorem generation_step (s : Session) (e : Event) :
    (s.step e).generation = if e.supersedes then s.generation + 1 else s.generation := by
  cases e with
  | complete t r =>
    by_cases current : s.isCurrent t <;> simp [step, complete, current, Event.supersedes]
  | _ => rfl

theorem generation_after (events : List Event) :
    (after events).generation = .ofNat (events.countP Event.supersedes) := by
  induction events with
  | nil => rfl
  | cons e earlier ih =>
    rw [after, generation_step, ih, List.countP_cons]
    split
    · rw [UInt64.ofNat_add]
      rfl
    · rfl

theorem generation_begin (events : List Event) :
    (after events).begin.2.generation = .ofNat (events.countP Event.supersedes + 1) := by
  rw [UInt64.ofNat_add, ← generation_after]
  rfl

theorem ofNat_inj_of_lt {m n : Nat} (small : m < UInt64.size) (small' : n < UInt64.size) :
    UInt64.ofNat m = UInt64.ofNat n ↔ m = n := by
  rw [← UInt64.toNat_inj, UInt64.toNat_ofNat_of_lt' small, UInt64.toNat_ofNat_of_lt' small']

/-- A token is current just when nothing was begun or reset after its begin, as long as the counter
has not come round. -/
theorem isCurrent_begin_iff {later earlier : List Event}
    (few : (later ++ .begin :: earlier).countP Event.supersedes < UInt64.size) :
    (after (later ++ .begin :: earlier)).isCurrent (after earlier).begin.2 = true ↔
      ∀ e ∈ later, e.supersedes = false := by
  have count : (later ++ .begin :: earlier).countP Event.supersedes =
      later.countP Event.supersedes + (earlier.countP Event.supersedes + 1) := by
    rw [List.countP_append, List.countP_cons_of_pos rfl]
  rw [isCurrent, decide_eq_true_iff, generation_after, generation_begin,
    ofNat_inj_of_lt few (by omega), count, Nat.add_eq_right, List.countP_eq_zero]
  simp

theorem exists_of_mem_issued {events : List Event} {t : Token} (member : t ∈ issued events) :
    ∃ later earlier, events = later ++ .begin :: earlier ∧ t = (after earlier).begin.2 := by
  induction events with
  | nil => cases member
  | cons e earlier ih =>
    have further (before : t ∈ issued earlier) : ∃ later earlier', e :: earlier =
        later ++ .begin :: earlier' ∧ t = (after earlier').begin.2 := by
      obtain ⟨later, earlier', rfl, same⟩ := ih before
      exact ⟨e :: later, earlier', rfl, same⟩
    cases e with
    | begin =>
      rcases List.mem_cons.mp member with rfl | before
      · exact ⟨[], earlier, rfl, rfl⟩
      · exact further before
    | _ => exact further member

theorem nodup_issued {events : List Event}
    (few : events.countP Event.supersedes < UInt64.size) : (issued events).Nodup := by
  induction events with
  | nil => exact List.nodup_nil
  | cons e earlier ih =>
    rw [List.countP_cons] at few
    have distinct := ih (by omega)
    cases e with
    | begin =>
      -- An earlier begin counts fewer before it, so it issued another token.
      refine List.nodup_cons.mpr ⟨fun again => ?_, distinct⟩
      obtain ⟨later, earlier', split, same⟩ := exists_of_mem_issued again
      have sameCount := congrArg Token.generation same
      have count := congrArg (List.countP Event.supersedes) split
      rw [List.countP_append, List.countP_cons_of_pos rfl] at count
      simp only [Event.supersedes, ↓reduceIte] at few
      rw [generation_begin, generation_begin, ofNat_inj_of_lt few (by omega)] at sameCount
      omega
    | _ => exact distinct

/-! ### What is kept -/

theorem complete_of_isCurrent {s : Session} {t : Token} (current : s.isCurrent t = true)
    (r : Report) : s.complete t r = (⟨s.generation, r.status, some r⟩, true) := by
  rw [complete, if_pos current]

theorem complete_of_not_isCurrent {s : Session} {t : Token} (stale : ¬ s.isCurrent t = true)
    (r : Report) : s.complete t r = (s, false) := by
  rw [complete, if_neg stale]

/-- A begin or a reset takes the report away, a completion with the current token replaces it, and
nothing else touches what is shown. -/
theorem step_cases (s : Session) (e : Event) :
    (e = .begin ∧ s.step e = ⟨s.generation + 1, .running, none⟩) ∨
      (e = .reset ∧ s.step e = ⟨s.generation + 1, .idle, none⟩) ∨
        (∃ t r, e = .complete t r ∧ s.isCurrent t = true ∧
          s.step e = ⟨s.generation, r.status, some r⟩) ∨
          (e.supersedes = false ∧ (∀ t r, e = .complete t r → ¬ s.isCurrent t = true) ∧
            s.step e = s) := by
  cases e with
  | begin => exact .inl ⟨rfl, rfl⟩
  | reset => exact .inr (.inl ⟨rfl, rfl⟩)
  | complete t r =>
    by_cases current : s.isCurrent t = true
    · refine .inr (.inr (.inl ⟨t, r, rfl, current, ?_⟩))
      rw [step, complete_of_isCurrent current]
    · refine .inr (.inr (.inr ⟨rfl, ?_, ?_⟩))
      · rintro t' r' same
        cases same
        exact current
      · rw [step, complete_of_not_isCurrent current]
  | isCurrent t => exact .inr (.inr (.inr ⟨rfl, by simp, rfl⟩))
  | status => exact .inr (.inr (.inr ⟨rfl, by simp, rfl⟩))
  | report => exact .inr (.inr (.inr ⟨rfl, by simp, rfl⟩))

theorem reported_after {events : List Event} (proper : UsesIssued events)
    (few : events.countP Event.supersedes < UInt64.size) {r : Report}
    (stored : (after events).report? = some r) :
    (after events).status = r.status ∧ Reported events r := by
  induction events with
  | nil => cases stored
  | cons e earlier ih =>
    have fewer : earlier.countP Event.supersedes < UInt64.size :=
      Nat.lt_of_le_of_lt (List.sublist_cons_self e earlier).countP_le few
    rw [after] at stored ⊢
    rcases step_cases (after earlier) e with ⟨-, same⟩ | ⟨-, same⟩ | ⟨t, r', rfl, current, same⟩ |
      ⟨quiet, stale, same⟩
    · rw [same] at stored
      cases stored
    · rw [same] at stored
      cases stored
    · rw [same] at stored ⊢
      obtain rfl : r' = r := Option.some.inj stored
      obtain ⟨between, earliest, rfl, rfl⟩ := exists_of_mem_issued (proper.1 t rfl)
      have clean := (isCurrent_begin_iff fewer).mp current
      exact ⟨rfl, [], between, earliest, rfl, clean, fun _ => List.not_mem_nil⟩
    · rw [same] at stored ⊢
      obtain ⟨status, later, between, earliest, rfl, clean, last⟩ := ih proper.2 fewer stored
      refine ⟨status, e :: later, between, earliest, rfl, ?_, ?_⟩
      · rw [List.cons_append, List.forall_mem_cons]
        exact ⟨quiet, clean⟩
      · -- Its token is still current, so another report with it would not have been dropped.
        have gather : later ++ .complete (after earliest).begin.2 r :: (between ++
            .begin :: earliest) =
              (later ++ .complete (after earliest).begin.2 r :: between) ++ .begin :: earliest := by
          rw [List.append_assoc, List.cons_append]
        have current : (after (later ++ .complete (after earliest).begin.2 r ::
            (between ++ .begin :: earliest))).isCurrent (after earliest).begin.2 = true := by
          rw [gather] at fewer ⊢
          refine (isCurrent_begin_iff fewer).mpr fun e member => ?_
          rcases List.mem_append.mp member with isLater | isThere
          · exact clean e (List.mem_append_left _ isLater)
          · rcases List.mem_cons.mp isThere with rfl | isBetween
            · rfl
            · exact clean e (List.mem_append_right _ isBetween)
        rintro r' (again | again)
        · exact stale _ _ rfl current
        · exact last r' ‹_›

theorem unreported_after {events : List Event} (nothing : (after events).report? = none) :
    (after events).status =
      match events.find? Event.supersedes with
      | some .begin => .running
      | _ => .idle := by
  induction events with
  | nil => rfl
  | cons e earlier ih =>
    rw [after] at nothing ⊢
    rcases step_cases (after earlier) e with ⟨rfl, same⟩ | ⟨rfl, same⟩ | ⟨t, r', rfl, -, same⟩ |
      ⟨quiet, -, same⟩
    · rw [same]
      rfl
    · rw [same]
      rfl
    · rw [same] at nothing
      cases nothing
    · rw [same] at nothing ⊢
      rw [ih nothing, List.find?_cons, quiet]

/-- A session keeps its tokens apart, follows the latest run alone, and shows this run's report as
soon as it has one, whatever is asked of it. -/
theorem disciplined (events : List Event) (proper : UsesIssued events)
    (few : events.countP Event.supersedes < UInt64.size) : Disciplined events where
  distinct := nodup_issued few
  isCurrent_iff := by
    rintro later earlier rfl
    exact isCurrent_begin_iff few
  complete_iff t r := by
    rw [complete]
    split <;> simp [*]
  kept t r accepted := by
    by_cases current : (after events).isCurrent t = true
    · rw [after, step, complete_of_isCurrent current]
      exact ⟨rfl, rfl⟩
    · rw [complete_of_not_isCurrent current] at accepted
      cases accepted
  dropped t r refused := by
    by_cases current : (after events).isCurrent t = true
    · rw [complete_of_isCurrent current] at refused
      cases refused
    · rw [after, step, complete_of_not_isCurrent current]
  reported _ := reported_after proper few
  unreported := unreported_after

/-- A run is superseded before its report comes, the next one fails and then succeeds, and after a
reset both are stale. -/
theorem disciplined_superseded :
    let events : List Event :=
      [.complete ⟨2⟩ ⟨.failure, [], [], [], none, 0⟩, .isCurrent ⟨2⟩, .reset,
        .complete ⟨2⟩ ⟨.success, [], [], [], none, 0⟩, .report,
        .complete ⟨2⟩ ⟨.failure, [], [], [], none, 0⟩,
        .complete ⟨1⟩ ⟨.success, [], [], [], none, 0⟩, .begin, .status, .begin]
    UsesIssued events ∧ events.countP Event.supersedes < UInt64.size ∧ Disciplined events ∧
      issued events = [⟨2⟩, ⟨1⟩] ∧ (after events).status = .idle := by
  intro events
  have proper : UsesIssued events := by decide +kernel
  have few : events.countP Event.supersedes < UInt64.size := by decide +kernel
  exact ⟨proper, few, disciplined events proper few, by decide +kernel, by decide +kernel⟩

end PolicyCanvas.DryRun.Session
