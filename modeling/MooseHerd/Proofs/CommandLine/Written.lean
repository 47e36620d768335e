import Mathlib.Data.List.Pairwise
import Mathlib.Data.List.Perm.Basic
import Mathlib.Data.List.TakeDrop
import MooseHerd.Proofs.CommandLine.Given
import MooseHerd.Proofs.Decimal.Bounded

/-! # Arguments in any order

Each thing that can be asked for is written as one argument. While the arguments are read, the count
waits to be looked at until the next option comes; but the values given so far and the one that
waits are together those that the arguments so far tell. As every argument tells another thing, it
does not matter in which order they come. -/

namespace MooseHerd.CommandLine

open MooseHerd.Decimal

/-! ## Values -/

/-- A text is the count if and only if it denotes a number in the range of counts. -/
theorem countOf_eq_ok_iff {text : String} {n : Nat} :
    countOf text = .ok n ↔ Denotes text n ∧ 1 ≤ n ∧ n ≤ countLimit := by
  have hsize : countLimit < int64Size := by decide
  constructor
  · intro h
    obtain ⟨hleast, hgreatest⟩ := range_of_countOf h
    unfold countOf at h
    split at h
    · exact absurd h misuse_ne_ok
    · rename_i m hm
      split at h
      · rename_i hrange
        cases h
        rw [← Int.toNat_of_nonneg (by omega : 0 ≤ m)] at hm
        exact ⟨((int64_eq_ok_iff hleast).mp hm).1, hleast, hgreatest⟩
      · exact absurd h misuse_ne_ok
  · rintro ⟨hdenotes, hleast, hgreatest⟩
    have hint : int64 text = .ok (n : Int) :=
      (int64_eq_ok_iff hleast).mpr ⟨hdenotes, Nat.lt_of_le_of_lt hgreatest hsize⟩
    simp only [countOf, hint]
    rw [if_pos (by omega), Int.toNat_natCast]

theorem seedOf_toString (n : UInt64) : seedOf (toString n.toNat) = .ok n := by
  rw [seedOf, uint64_eq_ok_iff.mpr (denotes_toString n.toNat)]

/-! ## Words -/

/-- One thing that an argument tells. -/
inductive Word where
  | count (n : Nat)
  | logLevel (level : String)
  | configDir (dir : String)
  | seed (n : UInt64)
  | dryRun

namespace Word

/-- The argument that tells it. -/
def written : Word → String
  | count n => toString n
  | logLevel level => "--log-level=" ++ level
  | configDir dir => "--config-dir=" ++ dir
  | seed n => "--seed=" ++ toString n.toNat
  | dryRun => "--dry-run"

/-- What is accepted: a count in its range, and a name of a directory. -/
def IsProper : Word → Prop
  | count n => 1 ≤ n ∧ n ≤ countLimit
  | configDir dir => dir ≠ ""
  | _ => True

/-- What the word tells about; `none` stands for the dry run. -/
def subject : Word → Option Parameter
  | count _ => some .count
  | logLevel _ => some .logLevel
  | configDir _ => some .configDir
  | seed _ => some .seed
  | dryRun => none

/-- The values with what the word tells. -/
def apply (g : Given) : Word → Given
  | count n => { g with count := some n }
  | logLevel level => { g with logLevel := some level }
  | configDir dir => { g with configDir := some dir }
  | seed n => { g with seed := some n }
  | dryRun => { g with dryRun := true }

end Word

/-- Whether the values tell about a subject. -/
def Given.tells (g : Given) : Option Parameter → Bool
  | some p => g.has p
  | none => g.dryRun

theorem Given.tells_apply {g : Given} {w : Word} {subject : Option Parameter}
    (h : w.subject ≠ subject) : (w.apply g).tells subject = g.tells subject := by
  rcases subject with _ | ⟨_ | _ | _ | _⟩ <;> cases w <;> first | rfl | exact absurd rfl h

/-- Words about different things can change places. -/
theorem Word.apply_comm {v w : Word} (h : v.subject ≠ w.subject) (g : Given) :
    w.apply (v.apply g) = v.apply (w.apply g) := by
  cases v <;> cases w <;> first | rfl | exact absurd rfl h

/-! ## Arguments -/

theorem State.take_long {s : State} (hs : s.trailing = false) {arg : String} {long : List Char}
    (harg : arg.toList = '-' :: '-' :: long) (hlong : long ≠ []) :
    s.take arg = s.takeLong (String.ofList (long.takeWhile (· ≠ '=')))
      (match long.dropWhile (· ≠ '=') with
        | [] => none
        | _ :: value => some (String.ofList value)) := by
  unfold State.take
  rw [if_neg (Bool.eq_false_iff.mp hs), harg]
  cases long with
  | nil => exact absurd rfl hlong
  | cons c cs =>
    change s.takeLong (String.ofList ((c :: cs).span (· ≠ '=')).1)
      (match ((c :: cs).span (· ≠ '=')).2 with
        | [] => none
        | _ :: value => some (String.ofList value)) = _
    rw [List.span_eq_takeWhile_dropWhile]

theorem State.take_attached {s : State} (hs : s.trailing = false) {name : String}
    (hname : '=' ∉ name.toList) (value : String) :
    s.take ("--" ++ name ++ "=" ++ value) = s.takeLong name (some value) := by
  have harg : ("--" ++ name ++ "=" ++ value).toList =
      '-' :: '-' :: (name.toList ++ '=' :: value.toList) := by
    simp only [String.toList_append, List.append_assoc]
    rfl
  have hother : ∀ c ∈ name.toList, decide (c ≠ '=') = true := by
    intro c hc
    rw [decide_eq_true_eq]
    rintro rfl
    exact hname hc
  rw [take_long hs harg (by simp), List.takeWhile_append_of_pos hother,
    List.dropWhile_append_of_pos hother, List.takeWhile_cons_of_neg (by decide),
    List.dropWhile_cons_of_neg (by decide), List.append_nil, String.ofList_toList]
  dsimp only
  rw [String.ofList_toList]

theorem State.take_plain {s : State} (hs : s.trailing = false) {arg : String}
    (harg : ∀ c rest, arg.toList ≠ '-' :: c :: rest) : s.take arg = s.takeValue arg := by
  unfold State.take
  rw [if_neg (Bool.eq_false_iff.mp hs)]
  split
  · rename_i h
    exact absurd h (harg _ _)
  · rename_i h
    exact absurd h (harg _ _)
  · rename_i h
    exact absurd h (harg _ _)
  · rfl

/-! ## Reading words -/

/-- The values that arguments told so far: those given and the one that waits to be looked at. -/
structure State.Holds (s : State) (g : Given) : Prop where
  settled : s.settle = .ok { s with given := g, pending := none }
  counted : s.counted = g.tells (some .count)
  trailing : s.trailing = false

namespace State.Holds

variable {s : State} {g : Given}

theorem name (h : s.Holds g) {p : Parameter} {text : String} {g' : Given}
    (htake : g.take p text = .ok g') (hcount : g'.tells (some .count) = g.tells (some .count)) :
    ∃ t, s.name p (some text) = .ok t ∧ t.Holds g' := by
  refine ⟨{ s with given := g', pending := none }, ?_, rfl, h.counted.trans hcount.symm, h.trailing⟩
  rw [State.name, h.settled, ok_bind]
  dsimp only
  rw [htake]
  rfl

theorem turnOn (h : s.Holds g) (hnew : g.dryRun = false) :
    ∃ t, s.turnOn .dryRun true = .ok t ∧ t.Holds { g with dryRun := true } := by
  refine ⟨{ s with given := { g with dryRun := true }, pending := none }, ?_, rfl, h.counted,
    h.trailing⟩
  rw [State.turnOn, h.settled, ok_bind]
  dsimp only
  rw [hnew]
  rfl

theorem takeValue (h : s.Holds g) {text : String} {n : Nat} (hnew : g.tells (some .count) = false)
    (hcount : countOf text = .ok n) :
    ∃ t, s.takeValue text = .ok t ∧ t.Holds { g with count := some n } := by
  have hcounted : s.counted = false := h.counted.trans hnew
  have hwaits : ∀ p, s.pending ≠ some ⟨p, none⟩ := by
    intro p hp
    have hsettled := h.settled
    rw [State.settle, hp] at hsettled
    exact misuse_ne_ok hsettled
  refine ⟨{ s with given := g, pending := some ⟨.count, some text⟩, counted := true }, ?_, ?_, rfl,
    h.trailing⟩
  · unfold State.takeValue
    split
    · rename_i p hp _
      exact absurd hp (hwaits p)
    · rw [hcounted, if_neg Bool.false_ne_true, h.settled]
      rfl
  · have hnone : g.has .count = false := hnew
    have htake : g.take .count text = .ok { g with count := some n } := by
      rw [Given.take, if_neg (Bool.eq_false_iff.mp hnone), hcount]
      rfl
    rw [State.settle]
    dsimp only
    rw [htake]
    rfl

/-- **A word is read** when it tells something new. -/
theorem take (h : s.Holds g) {w : Word} (hproper : w.IsProper) (hnew : g.tells w.subject = false) :
    ∃ t, s.take w.written = .ok t ∧ t.Holds (w.apply g) := by
  cases w with
  | count n =>
    have hplain : ∀ c rest, (toString n).toList ≠ '-' :: c :: rest := by
      intro c rest hchars
      have hmem : '-' ∈ Nat.toDigits 10 n := by
        rw [← toList_toString, hchars]
        exact List.mem_cons_self
      exact absurd (isDigit_of_mem_toDigits hmem) (by decide)
    rw [Word.written, State.take_plain h.trailing hplain]
    exact h.takeValue hnew (countOf_eq_ok_iff.mpr ⟨denotes_toString n, hproper⟩)
  | logLevel level =>
    have htake : g.take .logLevel level = .ok { g with logLevel := some level } :=
      if_neg (Bool.eq_false_iff.mp hnew)
    have hwritten : Word.written (.logLevel level) = "--" ++ "log-level" ++ "=" ++ level := rfl
    rw [hwritten, State.take_attached h.trailing (by decide)]
    exact h.name htake rfl
  | configDir dir =>
    have hnone : g.has .configDir = false := hnew
    have hnonempty : dir ≠ "" := hproper
    have hdirectory : directoryOf dir = .ok dir := if_neg (by simpa using hnonempty)
    have htake : g.take .configDir dir = .ok { g with configDir := some dir } := by
      rw [Given.take, if_neg (Bool.eq_false_iff.mp hnone), hdirectory]
      rfl
    have hwritten : Word.written (.configDir dir) = "--" ++ "config-dir" ++ "=" ++ dir := rfl
    rw [hwritten, State.take_attached h.trailing (by decide)]
    exact h.name htake rfl
  | seed n =>
    have hnone : g.has .seed = false := hnew
    have htake : g.take .seed (toString n.toNat) = .ok { g with seed := some n } := by
      rw [Given.take, if_neg (Bool.eq_false_iff.mp hnone), seedOf_toString]
      rfl
    have hwritten : Word.written (.seed n) = "--" ++ "seed" ++ "=" ++ toString n.toNat := rfl
    rw [hwritten, State.take_attached h.trailing (by decide)]
    exact h.name htake rfl
  | dryRun =>
    have hlong : "--dry-run".toList = '-' :: '-' :: "dry-run".toList := rfl
    have hswitch : s.take "--dry-run" = s.turnOn .dryRun true :=
      State.take_long h.trailing hlong (by decide)
    rw [Word.written, hswitch]
    exact h.turnOn hnew

end State.Holds

/-! ## Reading all words -/

/-- Proper words about different things. -/
structure IsWish (words : List Word) : Prop where
  proper : ∀ w ∈ words, w.IsProper
  distinct : words.Pairwise fun v w => v.subject ≠ w.subject

instance : Std.Symm fun v w : Word => v.subject ≠ w.subject := ⟨fun _ _ h => h.symm⟩

theorem State.Holds.foldlM {s : State} {g : Given} (h : s.Holds g) {words : List Word}
    (hwish : IsWish words) (hnew : ∀ w ∈ words, g.tells w.subject = false) :
    ∃ t, (words.map Word.written).foldlM State.take s = .ok t ∧
      t.Holds (words.foldl Word.apply g) := by
  induction words generalizing s g with
  | nil => exact ⟨s, rfl, h⟩
  | cons w words ih =>
    obtain ⟨hproper, hproperRest⟩ := List.forall_mem_cons.mp hwish.proper
    obtain ⟨hothers, hdistinct⟩ := List.pairwise_cons.mp hwish.distinct
    obtain ⟨hfirst, hrest⟩ := List.forall_mem_cons.mp hnew
    obtain ⟨t, htake, ht⟩ := h.take hproper hfirst
    have hstill : ∀ v ∈ words, (w.apply g).tells v.subject = false := fun v hv =>
      (Given.tells_apply (hothers v hv)).trans (hrest v hv)
    obtain ⟨last, hlast, hholds⟩ := ih ht ⟨hproperRest, hdistinct⟩ hstill
    refine ⟨last, ?_, hholds⟩
    rw [List.map_cons, List.foldlM_cons, htake, ok_bind]
    exact hlast

theorem parse_map_written {words : List Word} (hwish : IsWish words) :
    parse (words.map Word.written) = (words.foldl Word.apply {}).invocation := by
  have hstart : State.Holds {} {} := ⟨rfl, rfl, rfl⟩
  have hnew : ∀ w ∈ words, Given.tells {} w.subject = false := fun w _ => by cases w <;> rfl
  obtain ⟨s, hs, hholds⟩ := hstart.foldlM hwish hnew
  rw [parse, hs, ok_bind, hholds.settled, ok_bind]

/-- The order of the arguments does not matter. -/
theorem parse_of_perm {words : List Word} (hwish : IsWish words) {args : List String}
    (h : args.Perm (words.map Word.written)) :
    parse args = (words.foldl Word.apply {}).invocation := by
  -- the arguments are those of the same words in another order
  obtain ⟨ordered, hwritten, hperm⟩ := List.perm_comp_forall₂ h
    (List.forall₂_map_left_iff.mpr (List.forall₂_same.mpr fun w _ => rfl) :
      List.Forall₂ (fun arg w => arg = Word.written w) (words.map Word.written) words)
  have hargs : args = ordered.map Word.written := by
    rw [← List.forall₂_eq_eq_eq]
    exact List.forall₂_map_right_iff.mpr hwritten
  have hwish' : IsWish ordered :=
    ⟨fun w hw => hwish.proper w (hperm.mem_iff.mp hw),
      (hperm.pairwise_iff Ne.symm).mpr hwish.distinct⟩
  have hfold : ordered.foldl Word.apply {} = words.foldl Word.apply {} := by
    refine hperm.foldl_eq' (fun v hv w hw g => ?_) _
    by_cases heq : v = w
    · rw [heq]
    · exact Word.apply_comm (hwish'.distinct.forall hv hw heq) g
  rw [hargs, parse_map_written hwish', hfold]

/-! ## What can be asked for -/

section

variable (count : Nat) (logLevel configDir : Option String) (seed : Option UInt64) (dryRun : Bool)

def wish : List Word :=
  .count count :: ((logLevel.map .logLevel).toList ++ (configDir.map .configDir).toList ++
    (seed.map .seed).toList ++ if dryRun then [.dryRun] else [])

/-- The arguments that ask for it, in one of their orders. -/
def arguments : List String := (wish count logLevel configDir seed dryRun).map Word.written

variable {count configDir}

theorem isWish_wish (hcount : 1 ≤ count ∧ count ≤ countLimit) (hdir : configDir ≠ some "") :
    IsWish (wish count logLevel configDir seed dryRun) := by
  constructor
  · intro w hw
    cases w with
    | count n =>
      obtain rfl : n = count := by cases dryRun <;> simpa [wish] using hw
      exact hcount
    | configDir dir =>
      have hsome : configDir = some dir := by cases dryRun <;> simpa [wish] using hw
      rintro rfl
      exact hdir hsome
    | logLevel level => trivial
    | seed n => trivial
    | dryRun => trivial
  · rcases logLevel with _ | level <;> rcases configDir with _ | dir <;>
      rcases seed with _ | n <;> cases dryRun <;> simp [wish, Word.subject]

theorem foldl_wish : (wish count logLevel configDir seed dryRun).foldl Word.apply {} =
    { count := some count, logLevel, configDir, seed, dryRun } := by
  rcases logLevel with _ | level <;> rcases configDir with _ | dir <;> rcases seed with _ | n <;>
    cases dryRun <;> rfl

/-- Whatever their order, the arguments ask for what they were written for. -/
theorem parse_of_perm_arguments (hcount : 1 ≤ count ∧ count ≤ countLimit)
    (hdir : configDir ≠ some "") {args : List String}
    (h : args.Perm (arguments count logLevel configDir seed dryRun)) :
    parse args =
      .ok { count, logLevel, configDir := configDir.getD "config", seed, dryRun } := by
  rw [parse_of_perm (isWish_wish logLevel seed dryRun hcount hdir) h, foldl_wish]
  rfl

end

end MooseHerd.CommandLine
