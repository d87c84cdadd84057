import Mathlib.Data.List.Induction
import Mathlib.Data.List.Nodup
import PolicyCanvas.Proofs.CheckerUsage
import PolicyCanvas.Proofs.SessionTokens

/-!
# The log of a checker in use

What a checker shows can be read off the log of its usage (`standing`), and so can what every run
gives back (`GivesBack`). Tokens carry the count of the starts and resets before them, which tells
runs apart as long as the counter has not come round. `Consistent` says all this of a session, the
runs and the log, and every event keeps it (`recorded_after`).
-/

namespace PolicyCanvas.DryRun

namespace Usage

/-- The latest start or reset. -/
def latest? (log : List Entry) : Option Entry := log.find? Entry.supersedes

/-- What the check of a run came to, once the run has ended. -/
def checkOf? (log : List Entry) (run : Nat) : Option (Except Refusal Report) :=
  log.findSome? (Entry.check? run)

/-- What is shown while a run is followed. -/
def shown : Option (Except Refusal Report) → Status × Option Report
  | none => (.running, none)
  | some (.ok r) => (r.status, some r)
  | some (.error _) => (.idle, none)

/-- What a log leaves to be shown: the run that was started last is followed until the next
reset. -/
def standing (log : List Entry) : Status × Option Report :=
  match latest? log with
  | some (.started run) => shown (checkOf? log run)
  | _ => (.idle, none)

/-- What a run gives back by what came before its end: its report if it is still followed. -/
def GivesBack (before : List Entry) (run : Nat) : Except Refusal Report → Ending → Prop
  | .error e, ending => ending = .refused e
  | .ok r, ending =>
    (latest? before = some (.started run) ∧ ending = .reported r) ∨
      (latest? before ≠ some (.started run) ∧ ending = .superseded)

/-- A session and the marks of the runs are what the log says, and what the log says of the end of a
run fits with what it says before. -/
structure Consistent (s : Session) (marks : List (Token ⊕ Ending)) (log : List Entry) :
    Prop where
  numbered : log.filterMap Entry.started? = (List.range marks.length).reverse
  generation : s.generation = .ofNat (log.countP Entry.advances)
  standing : (s.status, s.report?) = standing log
  pending : ∀ i t, marks[i]? = some (.inl t) → checkOf? log i = none ∧
    ∃ k ≤ log.countP Entry.advances, t.generation = .ofNat k ∧
      (k = log.countP Entry.advances ↔ latest? log = some (.started i))
  recorded : ∀ i ending, marks[i]? = some (.inr ending) →
    ∃ check, .ended i check ending ∈ log
  explained : ∀ i check ending before, .ended i check ending :: before <:+ log →
    .started i ∈ before ∧ GivesBack before i check ending
  once : ∀ i check ending, .ended i check ending ∈ log → checkOf? log i = some check
  settled : ∀ i r ending, .ended i (.ok r) ending ∈ log → r.status ≠ .running

section

variable (log : List Entry) (i : Nat)

@[simp]
theorem latest?_started : latest? (.started i :: log) = some (.started i) := rfl

@[simp]
theorem latest?_reset : latest? (.reset :: log) = some .reset := rfl

@[simp]
theorem latest?_ended (check : Except Refusal Report) (e : Ending) :
    latest? (.ended i check e :: log) = latest? log := rfl

@[simp]
theorem checkOf?_started (j : Nat) : checkOf? (.started j :: log) i = checkOf? log i := rfl

@[simp]
theorem checkOf?_reset : checkOf? (.reset :: log) i = checkOf? log i := rfl

@[simp]
theorem checkOf?_ended (j : Nat) (check : Except Refusal Report) (e : Ending) :
    checkOf? (.ended j check e :: log) i = if j = i then some check else checkOf? log i := by
  by_cases same : j = i <;> simp [checkOf?, Entry.check?, same]

end

theorem checkOf?_eq_none_iff {log : List Entry} {i : Nat} :
    checkOf? log i = none ↔ ∀ check ending, .ended i check ending ∉ log := by
  rw [checkOf?, List.findSome?_eq_none_iff]
  constructor
  · intro none_found check ending member
    have found := none_found _ member
    simp [Entry.check?] at found
  · intro absent entry member
    cases entry with
    | started j => rfl
    | reset => rfl
    | ended j check ending =>
      have other : j ≠ i := by
        rintro rfl
        exact absent check ending member
      simp [Entry.check?, other]

namespace Consistent

variable {s : Session} {marks : List (Token ⊕ Ending)} {log : List Entry}

theorem lt_of_mem (c : Consistent s marks log) {i : Nat} (member : .started i ∈ log) :
    i < marks.length := by
  have number : i ∈ log.filterMap Entry.started? := List.mem_filterMap.mpr ⟨_, member, rfl⟩
  simpa [c.numbered] using number

theorem started_of_lt (c : Consistent s marks log) {i : Nat} (inside : i < marks.length) :
    .started i ∈ log := by
  have number : i ∈ log.filterMap Entry.started? := by simpa [c.numbered] using inside
  obtain ⟨entry, member, isStart⟩ := List.mem_filterMap.mp number
  cases entry with
  | started j =>
    obtain rfl : j = i := Option.some.inj isStart
    exact member
  | ended j check ending => cases isStart
  | reset => cases isStart

theorem started_of_mem (c : Consistent s marks log) {i : Nat} {check : Except Refusal Report}
    {ending : Ending} (member : .ended i check ending ∈ log) : .started i ∈ log := by
  obtain ⟨later, before, rfl⟩ := List.append_of_mem member
  have given := (c.explained i check ending before (List.suffix_append ..)).1
  simp [given]

theorem checkOf?_length (c : Consistent s marks log) : checkOf? log marks.length = none := by
  rw [checkOf?_eq_none_iff]
  intro check ending member
  exact absurd (c.lt_of_mem (c.started_of_mem member)) (by omega)

/-- A token is current just when its run is still followed, as long as the counter has not come
round. -/
theorem current_iff (c : Consistent s marks log) {i : Nat} {t : Token}
    (isPending : marks[i]? = some (.inl t)) (few : log.countP Entry.advances < UInt64.size) :
    s.generation = t.generation ↔ latest? log = some (.started i) := by
  obtain ⟨-, k, atMost, same, follows⟩ := c.pending i t isPending
  rw [← follows, c.generation, same, Session.ofNat_inj_of_lt few (by omega)]
  exact eq_comm

/-- A run is begun. -/
theorem begin (c : Consistent s marks log) :
    Consistent ⟨s.generation + 1, .running, none⟩ (marks ++ [.inl ⟨s.generation + 1⟩])
      (.started marks.length :: log) where
  numbered := by simp [Entry.started?, c.numbered, List.range_succ]
  generation := by
    rw [c.generation, List.countP_cons_of_pos rfl, UInt64.ofNat_add]
    rfl
  standing := by simp [Usage.standing, c.checkOf?_length, shown]
  pending := by
    intro i t isPending
    rw [List.countP_cons_of_pos rfl, checkOf?_started, latest?_started]
    rcases Nat.lt_or_ge i marks.length with old | new
    · rw [List.getElem?_append_left old] at isPending
      obtain ⟨unended, k, atMost, same, -⟩ := c.pending i t isPending
      have other : marks.length ≠ i := by omega
      exact ⟨unended, k, by omega, same, by simp [other]; omega⟩
    · obtain ⟨rfl, rfl⟩ : i = marks.length ∧ t = ⟨s.generation + 1⟩ := by
        rw [List.getElem?_append_right new, List.getElem?_singleton] at isPending
        split_ifs at isPending with first
        exact ⟨by omega, by simpa using isPending.symm⟩
      refine ⟨c.checkOf?_length, log.countP Entry.advances + 1, Nat.le_refl _, ?_, by simp⟩
      rw [c.generation, UInt64.ofNat_add]
      rfl
  recorded := by
    intro i ending isEnded
    rcases Nat.lt_or_ge i marks.length with old | new
    · rw [List.getElem?_append_left old] at isEnded
      obtain ⟨check, member⟩ := c.recorded i ending isEnded
      exact ⟨check, List.mem_cons_of_mem _ member⟩
    · rw [List.getElem?_append_right new, List.getElem?_singleton] at isEnded
      split_ifs at isEnded
      simp at isEnded
  explained := by
    intro i check ending before suffix
    rcases List.suffix_cons_iff.mp suffix with same | suffix
    · simp at same
    · exact c.explained i check ending before suffix
  once := by
    intro i check ending member
    exact c.once i check ending (by simpa using member)
  settled := by
    intro i r ending member
    exact c.settled i r ending (by simpa using member)

/-- The session is reset. -/
theorem reset (c : Consistent s marks log) : Consistent s.reset marks (.reset :: log) where
  numbered := c.numbered
  generation := by
    rw [Session.reset, c.generation, List.countP_cons_of_pos rfl, UInt64.ofNat_add]
    rfl
  standing := rfl
  pending := by
    intro i t isPending
    obtain ⟨unended, k, atMost, same, -⟩ := c.pending i t isPending
    rw [List.countP_cons_of_pos rfl]
    exact ⟨unended, k, by omega, same, by simp; omega⟩
  recorded := by
    intro i ending isEnded
    obtain ⟨check, member⟩ := c.recorded i ending isEnded
    exact ⟨check, List.mem_cons_of_mem _ member⟩
  explained := by
    intro i check ending before suffix
    rcases List.suffix_cons_iff.mp suffix with same | suffix
    · simp at same
    · exact c.explained i check ending before suffix
  once := by
    intro i check ending member
    exact c.once i check ending (by simpa using member)
  settled := by
    intro i r ending member
    exact c.settled i r ending (by simpa using member)

/-- A pending run ends; a run that is refused is the one that is followed. -/
theorem finish (c : Consistent s marks log) {i : Nat} {t : Token} {check : Except Refusal Report}
    {ending : Ending} {s' : Session} (isPending : marks[i]? = some (.inl t))
    (gives : GivesBack log i check ending) (settled : ∀ r, check = .ok r → r.status ≠ .running)
    (refused : ∀ e, check = .error e → latest? log = some (.started i))
    (generation : s'.generation = .ofNat ((.ended i check ending :: log).countP Entry.advances))
    (standing : (s'.status, s'.report?) = Usage.standing (.ended i check ending :: log)) :
    Consistent s' (marks.set i (.inr ending)) (.ended i check ending :: log) where
  numbered := by rw [List.filterMap_cons_none rfl, c.numbered, List.length_set]
  generation := generation
  standing := standing
  pending := by
    intro j t' isPending'
    have other : i ≠ j := by
      rintro rfl
      simp [(List.getElem?_eq_some_iff.mp isPending).1] at isPending'
    rw [List.getElem?_set_ne other] at isPending'
    obtain ⟨unended, k, atMost, same, follows⟩ := c.pending j t' isPending'
    rw [checkOf?_ended, if_neg other, latest?_ended]
    refine ⟨unended, k, ?_, same, ?_⟩
    · rw [List.countP_cons]
      omega
    · cases check with
      | ok r => exact follows
      | error e =>
        rw [List.countP_cons_of_pos rfl, refused e rfl]
        simp [other]
        omega
  recorded := by
    intro j ending' isEnded
    by_cases same : i = j
    · subst same
      rw [List.getElem?_set_self (List.getElem?_eq_some_iff.mp isPending).1] at isEnded
      obtain rfl : ending = ending' := by simpa using isEnded
      exact ⟨check, List.mem_cons_self⟩
    · rw [List.getElem?_set_ne same] at isEnded
      obtain ⟨check', member⟩ := c.recorded j ending' isEnded
      exact ⟨check', List.mem_cons_of_mem _ member⟩
  explained := by
    intro j check' ending' before suffix
    rcases List.suffix_cons_iff.mp suffix with same | suffix
    · obtain ⟨⟨rfl, rfl, rfl⟩, rfl⟩ :
          (j = i ∧ check' = check ∧ ending' = ending) ∧ before = log := by
        simpa using same
      exact ⟨c.started_of_lt (List.getElem?_eq_some_iff.mp isPending).1, gives⟩
    · exact c.explained j check' ending' before suffix
  once := by
    intro j check' ending' member
    rw [checkOf?_ended]
    rcases List.mem_cons.mp member with same | member
    · obtain ⟨rfl, rfl, -⟩ : j = i ∧ check' = check ∧ ending' = ending := by simpa using same
      exact if_pos rfl
    · have other : i ≠ j := by
        rintro rfl
        exact checkOf?_eq_none_iff.mp (c.pending i t isPending).1 check' ending' member
      rw [if_neg other]
      exact c.once j check' ending' member
  settled := by
    intro j r ending' member
    rcases List.mem_cons.mp member with same | member
    · obtain ⟨-, rfl, -⟩ : j = i ∧ .ok r = check ∧ ending' = ending := by simpa using same
      exact settled r rfl
    · exact c.settled j r ending' member

/-- A run that is followed ends with its report. -/
theorem keep (c : Consistent s marks log) {i : Nat} {t : Token} {r : Report}
    (isPending : marks[i]? = some (.inl t)) (settled : r.status ≠ .running)
    (current : s.generation = t.generation) (few : log.countP Entry.advances < UInt64.size) :
    Consistent ⟨s.generation, r.status, some r⟩ (marks.set i (.inr (.reported r)))
      (.ended i (.ok r) (.reported r) :: log) := by
  have follows := (c.current_iff isPending few).mp current
  refine c.finish isPending (.inl ⟨follows, rfl⟩) ?_ (by simp) ?_ ?_
  · intro r' same
    cases same
    exact settled
  · rw [c.generation, List.countP_cons_of_neg (by simp [Entry.advances])]
  · simp [Usage.standing, follows, shown]

/-- A run that is not followed any more ends and leaves the session as it is. -/
theorem drop (c : Consistent s marks log) {i : Nat} {t : Token} {r : Report}
    (isPending : marks[i]? = some (.inl t)) (settled : r.status ≠ .running)
    (stale : s.generation ≠ t.generation) (few : log.countP Entry.advances < UInt64.size) :
    Consistent s (marks.set i (.inr .superseded)) (.ended i (.ok r) .superseded :: log) := by
  have left : latest? log ≠ some (.started i) := fun follows =>
    stale ((c.current_iff isPending few).mpr follows)
  refine c.finish isPending (.inr ⟨left, rfl⟩) ?_ (by simp) ?_ ?_
  · intro r' same
    cases same
    exact settled
  · rw [c.generation, List.countP_cons_of_neg (by simp [Entry.advances])]
  · rw [c.standing, Usage.standing, Usage.standing, latest?_ended]
    split
    next j follows =>
      have other : i ≠ j := by
        rintro rfl
        exact left follows
      rw [checkOf?_ended, if_neg other]
    · rfl

/-- A run that was just begun is refused. -/
theorem refuse (c : Consistent s marks log) (e : Refusal) :
    Consistent ⟨s.generation + 1 + 1, .idle, none⟩ (marks ++ [.inr (.refused e)])
      (.ended marks.length (.error e) (.refused e) :: .started marks.length :: log) := by
  have begun := c.begin
  have isPending : (marks ++ [.inl ⟨s.generation + 1⟩])[marks.length]? =
      some (.inl ⟨s.generation + 1⟩) := by simp
  have gives : GivesBack (.started marks.length :: log) marks.length (.error e) (.refused e) := rfl
  have ended : Consistent ⟨s.generation + 1 + 1, .idle, none⟩
      ((marks ++ [Sum.inl (Token.mk (s.generation + 1))]).set marks.length (.inr (.refused e)))
      (.ended marks.length (.error e) (.refused e) :: .started marks.length :: log) := by
    refine begun.finish isPending gives (by simp) (fun _ _ => rfl) ?_ ?_
    · rw [List.countP_cons_of_pos rfl, UInt64.ofNat_add, ← begun.generation]
      rfl
    · simp [Usage.standing, shown]
  simpa using ended

end Consistent

/-- The token of a run while it is pending, and then how it ended. -/
def mark : Progress → Token ⊕ Ending
  | .pending p => .inl p.token
  | .ended e => .inr e

/-- What the log says fits with the checker and its runs. -/
def Recorded (u : Usage) : Prop := Consistent u.checker.session (u.runs.map mark) u.log

theorem map_mark_answer (u : Usage) (run position : Nat) (v : Verdict) :
    (u.answer run position v).runs.map mark = u.runs.map mark := by
  apply List.ext_getElem?
  intro i
  simp only [answer, List.getElem?_map, List.getElem?_modify]
  split_ifs with same
  · cases u.runs[i]? with
    | none => rfl
    | some progress => cases progress <;> rfl
  · simp

theorem recorded_step {u : Usage} (c : u.Recorded) (e : Event)
    (few : (u.step e).log.countP Entry.advances < UInt64.size) : (u.step e).Recorded := by
  have fewer : u.log.countP Entry.advances < UInt64.size :=
    Nat.lt_of_le_of_lt (u.log_suffix_step e).sublist.countP_le few
  cases e with
  | start w id =>
    change (u.start w id).log.countP Entry.advances < UInt64.size at few
    change (u.start w id).Recorded
    rcases u.start_cases w id with ⟨e, same⟩ | ⟨r, settled, same⟩ | ⟨run, same⟩
    · rw [same]
      simpa [Recorded, mark] using c.refuse e
    · rw [same] at few ⊢
      rw [List.countP_cons_of_neg (by simp [Entry.advances])] at few
      have isPending : (u.runs.map mark ++ [.inl ⟨u.checker.session.generation + 1⟩])[
          (u.runs.map mark).length]? = some (.inl ⟨u.checker.session.generation + 1⟩) := by simp
      simpa [Recorded, mark] using
        c.begin.keep isPending settled rfl (by simpa using few)
    · rw [same]
      simpa [Recorded, mark] using c.begin
  | answer run position v =>
    change (u.answer run position v).Recorded
    rw [Recorded, map_mark_answer]
    exact c
  | resume i =>
    change (u.resume i).Recorded
    rcases u.resume_cases i with same | ⟨p, r, isPending, settled, ended⟩
    · rw [same]
      exact c
    · have marked : (u.runs.map mark)[i]? = some (.inl p.token) := by simp [isPending, mark]
      rcases ended with ⟨current, same⟩ | ⟨stale, same⟩
      · rw [same]
        simpa [Recorded, mark, List.map_set] using c.keep marked settled current fewer
      · rw [same]
        simpa [Recorded, mark, List.map_set] using c.drop marked settled stale fewer
  | reset => exact c.reset

theorem recorded_new (settings : Settings) : (new settings).Recorded where
  numbered := rfl
  generation := rfl
  standing := rfl
  pending := by simp [new]
  recorded := by simp [new]
  explained := by simp [new]
  once := by simp [new]
  settled := by simp [new]

/-- Whatever the order of events is, the log fits with the checker and its runs. -/
theorem recorded_after (settings : Settings) (events : List Event)
    (few : ((new settings).after events).log.countP Entry.advances < UInt64.size) :
    ((new settings).after events).Recorded := by
  induction events using List.reverseRecOn with
  | nil => exact recorded_new settings
  | append_singleton events e ih =>
    rw [after_concat] at few ⊢
    have grows := ((new settings).after events).log_suffix_step e
    exact recorded_step (ih (Nat.lt_of_le_of_lt grows.sublist.countP_le few)) e few

/-! ### The run that was started last -/

theorem latest?_eq_started_iff {log : List Entry} {i : Nat} :
    latest? log = some (.started i) ↔
      ∃ later earlier, log = later ++ .started i :: earlier ∧
        ∀ x ∈ later, x.supersedes = false := by
  rw [latest?, List.find?_eq_some_iff_append]
  simp [Entry.supersedes]

theorem latest?_append (later earlier : List Entry) :
    latest? (later ++ earlier) = (latest? later).or (latest? earlier) :=
  List.find?_append

theorem exists_of_checkOf? {log : List Entry} {i : Nat} {check : Except Refusal Report}
    (found : checkOf? log i = some check) : ∃ ending, .ended i check ending ∈ log := by
  obtain ⟨entry, member, isEnd⟩ := List.exists_of_findSome?_eq_some found
  cases entry with
  | started j => cases isEnd
  | reset => cases isEnd
  | ended j check' ending =>
    simp only [Entry.check?, Option.ite_none_right_eq_some, Option.some.injEq] at isEnd
    obtain ⟨rfl, rfl⟩ := isEnd
    exact ⟨ending, member⟩

namespace Consistent

variable {s : Session} {marks : List (Token ⊕ Ending)} {log : List Entry}

/-- No run is started twice. -/
theorem not_mem_between (c : Consistent s marks log) {later between earlier : List Entry} {i : Nat}
    (split : log = later ++ (between ++ .started i :: earlier)) : .started i ∉ between := by
  intro again
  have distinct : (log.filterMap Entry.started?).Nodup := by
    rw [c.numbered]
    exact List.nodup_reverse.mpr List.nodup_range
  rw [split, List.filterMap_append, List.filterMap_append, List.nodup_append, List.nodup_append]
    at distinct
  have before : i ∈ between.filterMap Entry.started? := List.mem_filterMap.mpr ⟨_, again, rfl⟩
  exact distinct.2.1.2.2 i before i (by simp [Entry.started?]) rfl

/-- The run that is followed is the newest. -/
theorem le_of_latest? (c : Consistent s marks log) {i j : Nat}
    (follows : latest? log = some (.started i)) (member : .started j ∈ log) : j ≤ i := by
  obtain ⟨later, earlier, rfl, clean⟩ := latest?_eq_started_iff.mp follows
  have nothing : later.filterMap Entry.started? = [] := by
    rw [List.filterMap_eq_nil_iff]
    intro x inside
    have kept := clean x inside
    cases x with
    | started k => cases kept
    | ended k check ending => rfl
    | reset => cases kept
  have numbers := c.numbered
  have inside := c.lt_of_mem member
  rw [List.filterMap_append, nothing, List.nil_append] at numbers
  simp only [List.filterMap_cons, Entry.started?] at numbers
  have first := congrArg List.head? numbers
  rw [List.head?_cons, List.head?_reverse, List.getLast?_range] at first
  split_ifs at first
  have newest := Option.some.inj first
  omega

/-- A run gives its report back when nothing superseded it, and nothing when something did. -/
theorem reported (c : Consistent s marks log) {i : Nat} {r : Report} {ending : Ending}
    {later between earlier : List Entry}
    (split : log = later ++ .ended i (.ok r) ending :: (between ++ .started i :: earlier)) :
    (ending = .reported r ↔ ∀ x ∈ between, x.supersedes = false) ∧
      (ending = .superseded ↔ ∃ x ∈ between, x.supersedes = true) := by
  have given := (c.explained i _ ending _ ⟨later, split.symm⟩).2
  have alone : Entry.started i ∉ between :=
    c.not_mem_between (split.trans (List.append_cons ..))
  simp only [GivesBack, latest?_append, latest?_started] at given
  cases found : latest? between with
  | none =>
    have clean : ∀ x ∈ between, x.supersedes = false := by
      simpa [latest?] using found
    obtain rfl : ending = .reported r := by simpa [found] using given
    simpa using clean
  | some x =>
    have member : x ∈ between := List.mem_of_find?_eq_some found
    have cuts : x.supersedes = true := List.find?_some found
    have other : x ≠ .started i := by
      rintro rfl
      exact alone member
    obtain rfl : ending = .superseded := by simpa [found, other] using given
    refine ⟨?_, by simpa using ⟨x, member, cuts⟩⟩
    simpa using ⟨x, member, cuts⟩

end Consistent

theorem Recorded.exists_pending_iff {u : Usage} (c : u.Recorded) (i : Nat) :
    (∃ p, u.runs[i]? = some (.pending p)) ↔ .started i ∈ u.log ∧ checkOf? u.log i = none := by
  constructor
  · rintro ⟨p, isPending⟩
    have marked : (u.runs.map mark)[i]? = some (.inl p.token) := by simp [isPending, mark]
    exact ⟨c.started_of_lt (List.getElem?_eq_some_iff.mp marked).1, (c.pending i _ marked).1⟩
  · rintro ⟨started, unended⟩
    have inside : i < u.runs.length := by simpa using c.lt_of_mem started
    cases run : u.runs[i] with
    | pending p => exact ⟨p, by rw [List.getElem?_eq_getElem inside, run]⟩
    | ended ending =>
      have marked : (u.runs.map mark)[i]? = some (.inr ending) := by simp [inside, run, mark]
      obtain ⟨check, member⟩ := c.recorded i ending marked
      exact absurd member (checkOf?_eq_none_iff.mp unended check ending)

/-- The status is that of a run under way when the latest start or reset is the start of a run that
has not ended. -/
theorem Recorded.running_iff {u : Usage} (c : u.Recorded) :
    u.checker.status = .running ↔
      ∃ i, latest? u.log = some (.started i) ∧ ∃ p, u.runs[i]? = some (.pending p) := by
  have status : u.checker.status = (standing u.log).1 := congrArg Prod.fst c.standing
  rw [status, standing]
  cases found : latest? u.log with
  | none => simp
  | some x =>
    cases x with
    | ended j check ending => simp
    | reset => simp
    | started j =>
      have started : .started j ∈ u.log := List.mem_of_find?_eq_some found
      have pending_iff := c.exists_pending_iff j
      simp only [started, true_and] at pending_iff
      simp only [Option.some.injEq, Entry.started.injEq, exists_eq_left', pending_iff]
      cases ended : checkOf? u.log j with
      | none => simp [shown]
      | some check =>
        cases check with
        | error e => simp [shown]
        | ok r =>
          obtain ⟨ending, member⟩ := exists_of_checkOf? ended
          simp [shown, c.settled j r ending member]

end Usage

end PolicyCanvas.DryRun
