import MooseHerd.Proofs.CommandLine.Written

/-! # The argument for the count

Which of the arguments is meant for the count can be told without reading their values: it is the
one that is neither an option nor the value of one. Arguments are accepted only if there is exactly
one such argument, and the count is the number that it denotes. -/

namespace MooseHerd.CommandLine

open MooseHerd.Decimal

/-! ## Arguments that are not options -/

/-- Whether the argument after this one is its value. -/
def takesNext (arg : String) : Bool :=
  arg ∈ ["--log-level", "--config-dir", "--seed", "-l", "-c"]

/-- Whether an argument is an option: it begins with a hyphen that is not all of it. -/
def isOption (arg : String) : Bool :=
  match arg.toList with
  | '-' :: _ :: _ => true
  | _ => false

/-- The arguments that are neither options nor values of options, where the first one is a value if
the option before it takes one. After two hyphens there are no options. -/
def positionals : Bool → List String → List String
  | _, [] => []
  | true, _ :: rest => positionals false rest
  | false, arg :: rest =>
    if arg = "--" then rest
    else if takesNext arg then positionals true rest
    else if isOption arg then positionals false rest
    else arg :: positionals false rest

theorem of_ofLong?_parameter {name : String} {p : Parameter}
    (h : Opt.ofLong? name = some (.parameter p)) :
    p ≠ .count ∧ name ∈ ["log-level", "config-dir", "seed"] := by
  unfold Opt.ofLong? at h
  repeat' split at h
  all_goals cases h
  all_goals simp_all

theorem of_ofLong?_dryRun {name : String} (h : Opt.ofLong? name = some (.switch .dryRun)) :
    name ∉ ["log-level", "config-dir", "seed"] := by
  unfold Opt.ofLong? at h
  repeat' split at h
  all_goals cases h
  all_goals simp_all

theorem of_ofShort?_parameter {c : Char} {p : Parameter}
    (h : Opt.ofShort? c = some (.parameter p)) : p ≠ .count ∧ c ∈ ['l', 'c'] := by
  unfold Opt.ofShort? at h
  repeat' split at h
  all_goals cases h
  all_goals simp_all

theorem ofShort?_ne_dryRun (c : Char) : Opt.ofShort? c ≠ some (.switch .dryRun) := by
  unfold Opt.ofShort?
  repeat' split
  all_goals nofun

theorem takesNext_iff {arg : String} : takesNext arg = true ↔ arg.toList ∈
    ["--log-level".toList, "--config-dir".toList, "--seed".toList, "-l".toList, "-c".toList] := by
  simp only [takesNext, decide_eq_true_eq, List.mem_cons, List.not_mem_nil, or_false,
    String.toList_inj]

theorem isOption_of_takesNext {arg : String} (h : takesNext arg = true) : isOption arg = true := by
  have hwords : ∀ word ∈ ["--log-level", "--config-dir", "--seed", "-l", "-c"],
      isOption word = true := by decide
  exact hwords arg (of_decide_eq_true h)

theorem takesNext_of_long {arg : String} {long : List Char}
    (harg : arg.toList = '-' :: '-' :: long) : takesNext arg =
      ((match long.dropWhile (· ≠ '=') with
        | [] => none
        | _ :: value => some (String.ofList value)).isNone &&
      decide (String.ofList (long.takeWhile (· ≠ '=')) ∈
        ["log-level", "config-dir", "seed"])) := by
  have hnames : takesNext arg = true ↔
      long ∈ ["log-level".toList, "config-dir".toList, "seed".toList] := by
    rw [takesNext_iff, harg]
    simp
  cases hvalue : long.dropWhile (· ≠ '=') with
  | nil =>
    have hname : long.takeWhile (· ≠ '=') = long := by
      conv_rhs => rw [← List.takeWhile_append_dropWhile (p := (· ≠ '=')) (l := long), hvalue,
        List.append_nil]
    rw [hname, Bool.eq_iff_iff, hnames]
    simp only [Option.isNone_none, Bool.true_and, decide_eq_true_eq, List.mem_cons,
      List.not_mem_nil, or_false, ← String.toList_inj, String.toList_ofList]
  | cons c value =>
    -- the names have no equals sign in them
    have hplain : ∀ name ∈ ["log-level".toList, "config-dir".toList, "seed".toList],
        name.dropWhile (· ≠ '=') = [] := by decide
    rw [Option.isNone_some, Bool.false_and, ← Bool.not_eq_true, hnames]
    intro hmem
    cases hvalue.symm.trans (hplain long hmem)

theorem takesNext_of_short {arg : String} {c : Char} {rest : List Char}
    (harg : arg.toList = '-' :: c :: rest) (hc : c ≠ '-') :
    takesNext arg = (rest.isEmpty && decide (c ∈ ['l', 'c'])) := by
  rw [Bool.eq_iff_iff, takesNext_iff, harg]
  simp [hc, ← or_and_right, and_comm]

/-! ## What was met of the count -/

/-- The count is the one that the texts for it tell, and there is one such text at most. -/
def Given.Counted (g : Given) : List String → Prop
  | [] => g.count = none
  | [text] => ∃ n, g.count = some n ∧ countOf text = .ok n
  | _ => False

/-- Whether the next argument is to be a value. -/
def State.awaits (s : State) : Bool :=
  match s.pending with
  | some ⟨_, none⟩ => true
  | _ => false

/-- The texts for the count that were met. The last one may still have to be looked at. -/
structure State.Met (s : State) (texts : List String) : Prop where
  counted : s.counted = !texts.isEmpty
  looked : (s.given.Counted texts ∧ ∀ value, s.pending ≠ some ⟨.count, value⟩) ∨
    (s.given.Counted [] ∧ ∃ text, texts = [text] ∧ s.pending = some ⟨.count, some text⟩)

theorem Given.Counted.congr {g h : Given} {texts : List String} (hg : g.Counted texts)
    (hcount : h.count = g.count) : h.Counted texts := by
  rcases texts with _ | ⟨text, _ | ⟨_, _⟩⟩
  · exact hcount.trans hg
  · obtain ⟨n, hn, htext⟩ := hg
    exact ⟨n, hcount.trans hn, htext⟩
  · exact hg

theorem Given.count_of_take {g h : Given} {p : Parameter} {text : String} (hp : p ≠ .count)
    (htake : g.take p text = .ok h) : h.count = g.count := by
  have hsets := Given.sets_of_take htake
  cases p with
  | count => exact absurd rfl hp
  | logLevel =>
    obtain rfl : h = _ := hsets
    rfl
  | configDir =>
    obtain ⟨_, -, rfl⟩ := hsets
    rfl
  | seed =>
    obtain ⟨_, -, rfl⟩ := hsets
    rfl

namespace State

/-! ### Kinds of arguments -/

section

variable {s : State} (htrailing : s.trailing = false) {arg : String}

include htrailing

theorem take_hyphens : s.take "--" = .ok { s with trailing := true } := by
  unfold take
  rw [if_neg (Bool.eq_false_iff.mp htrailing)]
  rfl

theorem take_short {c : Char} {rest : List Char} (harg : arg.toList = '-' :: c :: rest)
    (hc : c ≠ '-') : s.take arg = s.takeShort (c :: rest) := by
  unfold take
  rw [if_neg (Bool.eq_false_iff.mp htrailing), harg]
  split
  · rename_i h
    simp_all
  · rename_i h
    simp_all
  · rename_i h
    simp_all
  · rename_i h
    simp_all

theorem take_of_not_option (h : isOption arg = false) : s.take arg = s.takeValue arg := by
  refine take_plain htrailing fun c rest harg => ?_
  rw [isOption, harg] at h
  cases h

end

/-- An option was taken by a state that awaits no value: no other text for the count was met. -/
structure Passes (s t : State) (texts : List String) (awaits : Bool) : Prop where
  ready : s.awaits = false
  met : t.Met texts
  awaits : t.awaits = awaits
  trailing : t.trailing = s.trailing

namespace Met

variable {s t : State} {texts : List String}

theorem of_counted (hcounted : t.given.Counted texts) (hmet : s.Met texts)
    (hsame : t.counted = s.counted) (hpending : ∀ value, t.pending ≠ some ⟨.count, value⟩) :
    t.Met texts :=
  ⟨hsame.trans hmet.counted, .inl ⟨hcounted, hpending⟩⟩

/-! ### Options -/

/-- What remains of the state when the value that waited has been looked at. -/
theorem settle (h : s.Met texts) (hs : s.settle = .ok t) :
    s.awaits = false ∧ t.given.Counted texts ∧ t.pending = none ∧ t.counted = s.counted ∧
      t.trailing = s.trailing := by
  unfold State.settle at hs
  unfold State.awaits
  split at hs
  · rename_i hpending
    cases hs
    rcases h.looked with ⟨hcounted, -⟩ | ⟨-, text, -, hwaits⟩
    · rw [hpending]
      exact ⟨rfl, hcounted, rfl, rfl, rfl⟩
    · cases hpending.symm.trans hwaits
  · exact absurd hs misuse_ne_ok
  · rename_i p value hpending
    obtain ⟨g, htake, hs⟩ := bind_eq_ok.mp hs
    cases hs
    rw [hpending]
    refine ⟨rfl, ?_, rfl, rfl, rfl⟩
    rcases h.looked with ⟨hcounted, hother⟩ | ⟨-, text, rfl, hwaits⟩
    · refine hcounted.congr (Given.count_of_take ?_ htake)
      rintro rfl
      exact hother _ hpending
    · cases hpending.symm.trans hwaits
      obtain ⟨n, hn, rfl⟩ := Given.sets_of_take htake
      exact ⟨n, rfl, hn⟩

theorem name (h : s.Met texts) {p : Parameter} (hp : p ≠ .count) {attached : Option String}
    (hs : s.name p attached = .ok t) : Passes s t texts attached.isNone := by
  obtain ⟨settled, hsettle, hs⟩ := bind_eq_ok.mp hs
  obtain ⟨hready, hcounted, hpending, hsame, htrailing⟩ := h.settle hsettle
  cases attached with
  | none =>
    cases hs
    refine ⟨hready, of_counted hcounted h hsame ?_, rfl, htrailing⟩
    rintro value ⟨⟩
    exact hp rfl
  | some value =>
    obtain ⟨g, htake, hs⟩ := bind_eq_ok.mp hs
    cases hs
    have hother := hcounted.congr (Given.count_of_take hp htake)
    refine ⟨hready, of_counted hother h hsame ?_, ?_, htrailing⟩
    · rw [hpending]
      nofun
    · rw [State.awaits, hpending]
      rfl

theorem turnOn (h : s.Met texts) {switch : Switch} {long : Bool}
    (hs : s.turnOn switch long = .ok t) : switch = .dryRun ∧ Passes s t texts false := by
  obtain ⟨settled, hsettle, hs⟩ := bind_eq_ok.mp hs
  obtain ⟨hready, hcounted, hpending, hsame, htrailing⟩ := h.settle hsettle
  cases switch with
  | help => cases hs
  | version => cases hs
  | dryRun =>
    obtain ⟨-, hs⟩ := eq_ok_of_unless hs
    cases hs
    refine ⟨rfl, hready, of_counted (hcounted.congr rfl) h hsame ?_, ?_, htrailing⟩
    · rw [hpending]
      nofun
    · rw [State.awaits, hpending]

theorem takeLong (h : s.Met texts) {name : String} {attached : Option String}
    (hs : s.takeLong name attached = .ok t) : Passes s t texts
      (attached.isNone && decide (name ∈ ["log-level", "config-dir", "seed"])) := by
  unfold State.takeLong at hs
  split at hs
  · exact absurd hs misuse_ne_ok
  · rename_i p hname
    obtain ⟨hp, hmem⟩ := of_ofLong?_parameter hname
    rw [decide_eq_true hmem, Bool.and_true]
    exact h.name hp hs
  · exact absurd hs misuse_ne_ok
  · rename_i switch hname
    obtain ⟨rfl, hpasses⟩ := h.turnOn hs
    rw [decide_eq_false (of_ofLong?_dryRun hname), Bool.and_false]
    exact hpasses

theorem takeShort (h : s.Met texts) {c : Char} {rest : List Char}
    (hs : s.takeShort (c :: rest) = .ok t) : Passes s t texts
      (rest.isEmpty && decide (c ∈ ['l', 'c'])) := by
  unfold State.takeShort at hs
  split at hs
  · exact absurd hs misuse_ne_ok
  · rename_i p hname
    obtain ⟨hp, hmem⟩ := of_ofShort?_parameter hname
    rw [decide_eq_true hmem, Bool.and_true]
    have hpasses := h.name hp hs
    rcases rest with _ | ⟨d, ds⟩
    · exact hpasses
    · split at hpasses
      · rename_i hempty
        cases hempty
      · exact hpasses
      · exact hpasses
  · rename_i switch hname
    obtain ⟨u, hu, -⟩ := bind_eq_ok.mp hs
    obtain ⟨rfl, -⟩ := h.turnOn hu
    exact absurd hname (ofShort?_ne_dryRun c)

/-! ### Arguments -/

theorem take_option (h : s.Met texts) (htrailing : s.trailing = false) {arg : String}
    (hoption : isOption arg = true) (hne : arg ≠ "--") (hs : s.take arg = .ok t) :
    Passes s t texts (takesNext arg) := by
  unfold isOption at hoption
  split at hoption
  · rename_i first rest harg
    by_cases hlong : first = '-'
    · subst hlong
      have hrest : rest ≠ [] := by
        rintro rfl
        exact hne (String.toList_inj.mp harg)
      rw [State.take_long htrailing harg hrest] at hs
      rw [takesNext_of_long harg]
      exact h.takeLong hs
    · rw [take_short htrailing harg hlong] at hs
      rw [takesNext_of_short harg hlong]
      exact h.takeShort hs
  · cases hoption

/-- A text that is no option is the value that is awaited, or else it is meant for the count. -/
theorem takeValue (h : s.Met texts) {arg : String} (hs : s.takeValue arg = .ok t) :
    t.awaits = false ∧ t.trailing = s.trailing ∧
      (s.awaits = true ∧ s.trailing = false ∧ t.Met texts ∨
        s.awaits = false ∧ texts = [] ∧ t.Met [arg]) := by
  unfold State.takeValue at hs
  split at hs
  · rename_i p hpending htrailing
    cases hs
    refine ⟨rfl, rfl, .inl ⟨?_, htrailing, h.counted, ?_⟩⟩
    · rw [State.awaits, hpending]
    · rcases h.looked with ⟨hcounted, hother⟩ | ⟨-, text, -, hwaits⟩
      · refine .inl ⟨hcounted, ?_⟩
        rintro value ⟨⟩
        exact hother _ hpending
      · cases hpending.symm.trans hwaits
  · split at hs
    · exact absurd hs misuse_ne_ok
    · rename_i hcounted
      obtain ⟨settled, hsettle, hs⟩ := bind_eq_ok.mp hs
      obtain ⟨hready, hgiven, -, -, htrailing⟩ := h.settle hsettle
      cases hs
      have htexts : texts = [] := by
        rw [h.counted, Bool.not_eq_true', Bool.not_eq_false, List.isEmpty_iff] at hcounted
        exact hcounted
      subst htexts
      exact ⟨rfl, htrailing, .inr ⟨hready, rfl, rfl, .inr ⟨hgiven, arg, rfl, rfl⟩⟩⟩

end Met

/-! ## All arguments -/

variable {s t u : State} {texts : List String}

/-- After two hyphens, all arguments are meant for the count. -/
theorem Met.foldlM_of_trailing {args : List String} (h : s.Met texts) (hawaits : s.awaits = false)
    (htrailing : s.trailing = true) (hs : args.foldlM State.take s = .ok t)
    (ht : t.settle = .ok u) : u.given.Counted (texts ++ args) := by
  induction args generalizing s texts with
  | nil =>
    cases hs
    rw [List.append_nil]
    exact (h.settle ht).2.1
  | cons arg rest ih =>
    rw [List.foldlM_cons] at hs
    obtain ⟨next, hnext, hs⟩ := bind_eq_ok.mp hs
    rw [State.take, if_pos htrailing] at hnext
    obtain ⟨hready, hstill, ⟨-, hother, -⟩ | ⟨-, rfl, hmet⟩⟩ := h.takeValue hnext
    · cases htrailing.symm.trans hother
    · exact ih hmet hready (hstill.trans htrailing) hs

/-- A value that is awaited cannot come after two hyphens. -/
theorem foldlM_ne_of_awaits {args : List String} (h : s.Met texts) (hawaits : s.awaits = true)
    (htrailing : s.trailing = true) (hs : args.foldlM State.take s = .ok t) :
    t.settle ≠ .ok u := by
  cases args with
  | nil =>
    cases hs
    intro ht
    cases hawaits.symm.trans (h.settle ht).1
  | cons arg rest =>
    rw [List.foldlM_cons] at hs
    obtain ⟨next, hnext, -⟩ := bind_eq_ok.mp hs
    rw [State.take, if_pos htrailing] at hnext
    obtain ⟨-, -, ⟨-, hother, -⟩ | ⟨hready, -⟩⟩ := h.takeValue hnext
    · cases htrailing.symm.trans hother
    · cases hawaits.symm.trans hready

/-- The texts for the count that are met are the arguments that are no options. -/
theorem Met.foldlM {args : List String} (h : s.Met texts) (htrailing : s.trailing = false)
    (hs : args.foldlM State.take s = .ok t) (ht : t.settle = .ok u) :
    u.given.Counted (texts ++ positionals s.awaits args) := by
  induction args generalizing s texts with
  | nil =>
    cases hs
    rw [positionals, List.append_nil]
    exact (h.settle ht).2.1
  | cons arg rest ih =>
    rw [List.foldlM_cons] at hs
    obtain ⟨next, hnext, hs⟩ := bind_eq_ok.mp hs
    by_cases hhyphens : arg = "--"
    · subst hhyphens
      rw [take_hyphens htrailing] at hnext
      cases hnext
      have hmet : Met { s with trailing := true } texts := ⟨h.counted, h.looked⟩
      cases hawaits : s.awaits with
      | true => exact absurd ht (foldlM_ne_of_awaits hmet hawaits rfl hs)
      | false =>
        rw [positionals, if_pos rfl]
        exact hmet.foldlM_of_trailing hawaits rfl hs ht
    cases hoption : isOption arg with
    | true =>
      obtain ⟨hready, hmet, hawaits, hstill⟩ := h.take_option htrailing hoption hhyphens hnext
      have hrest := ih hmet (hstill.trans htrailing) hs
      rw [hawaits] at hrest
      rw [hready, positionals, if_neg hhyphens, hoption, if_pos rfl]
      cases htakes : takesNext arg with
      | true =>
        rw [htakes] at hrest
        exact hrest
      | false =>
        rw [htakes] at hrest
        exact hrest
    | false =>
      rw [take_of_not_option htrailing hoption] at hnext
      obtain ⟨hready, hstill, ⟨hawaits, -, hmet⟩ | ⟨hawaits, rfl, hmet⟩⟩ := h.takeValue hnext
      · have hrest := ih hmet (hstill.trans htrailing) hs
        rw [hready] at hrest
        rw [hawaits, positionals]
        exact hrest
      · have hrest := ih hmet (hstill.trans htrailing) hs
        rw [hready] at hrest
        have htakes : takesNext arg = false := by
          rw [← Bool.not_eq_true]
          exact fun htakes => Bool.eq_false_iff.mp hoption (isOption_of_takesNext htakes)
        rw [hawaits, positionals, if_neg hhyphens, htakes, if_neg Bool.false_ne_true, hoption,
          if_neg Bool.false_ne_true]
        exact hrest

end State

/-- Arguments that are accepted have one that is no option, and it is the text of the count. -/
theorem positionals_of_parse {args : List String} {i : Invocation} (h : parse args = .ok i) :
    ∃ text, positionals false args = [text] ∧ countOf text = .ok i.count := by
  obtain ⟨s, hs, h⟩ := bind_eq_ok.mp h
  obtain ⟨settled, hsettle, h⟩ := bind_eq_ok.mp h
  have hstart : State.Met {} [] := ⟨rfl, .inl ⟨rfl, nofun⟩⟩
  have hcounted := hstart.foldlM rfl hs hsettle
  unfold Given.invocation at h
  split at h
  · exact absurd h misuse_ne_ok
  · rename_i count hcount
    cases h
    change settled.given.Counted (positionals false args) at hcounted
    rcases htexts : positionals false args with _ | ⟨text, _ | ⟨_, _⟩⟩
    · rw [htexts] at hcounted
      cases hcount.symm.trans hcounted
    · rw [htexts] at hcounted
      obtain ⟨n, hn, htext⟩ := hcounted
      cases hcount.symm.trans hn
      exact ⟨text, rfl, htext⟩
    · rw [htexts] at hcounted
      exact hcounted.elim

/-! ## From arguments to settings -/

/-- Nothing of the settings changes but the level of reports and the seed, and these only if they
are asked for. -/
structure Invocation.Overrides (i : Invocation) (before after : Settings) : Prop where
  cluster : after.cluster = before.cluster
  resource : after.resource = before.resource
  reports : after.observability =
    { before.observability with logLevel := after.observability.logLevel }
  generator : after.generator = { before.generator with seed := after.generator.seed }
  level : after.observability.logLevel = i.logLevel.getD before.observability.logLevel
  seed : after.generator.seed = i.seed.or before.generator.seed

theorem Invocation.overrides_override (i : Invocation) (settings : Settings) :
    i.Overrides settings (i.override settings) := by
  refine ⟨rfl, rfl, rfl, rfl, rfl, ?_⟩
  cases i with
  | mk count logLevel configDir seed dryRun => cases seed <;> rfl

/-- **Arguments ask for what they were written for**, in whatever order they come. Whatever
arguments are accepted, the count is the number that the only argument besides the options denotes,
and of the settings at most the level of reports and the seed change. -/
theorem arguments_in_any_order :
    (∀ (count : Nat) (logLevel configDir : Option String) (seed : Option UInt64) (dryRun : Bool)
      (args : List String), 1 ≤ count → count ≤ 4294967295 → configDir ≠ some "" →
      args.Perm (arguments count logLevel configDir seed dryRun) →
      parse args =
        .ok { count, logLevel, configDir := configDir.getD "config", seed, dryRun }) ∧
    (∀ (args : List String) (i : Invocation), parse args = .ok i →
      (∃ text, positionals false args = [text] ∧ Denotes text i.count) ∧
      1 ≤ i.count ∧ i.count ≤ 4294967295 ∧
      ∀ settings, i.Overrides settings (i.override settings)) := by
  constructor
  · intro count logLevel configDir seed dryRun args hleast hgreatest hdir hargs
    exact parse_of_perm_arguments logLevel seed dryRun ⟨hleast, hgreatest⟩ hdir hargs
  · intro args i hi
    obtain ⟨text, htext, hcount⟩ := positionals_of_parse hi
    obtain ⟨hdenotes, hleast, hgreatest⟩ := countOf_eq_ok_iff.mp hcount
    exact ⟨⟨text, htext, hdenotes⟩, hleast, hgreatest, i.overrides_override⟩

/-- The greatest count between options, and the same arguments in another order. -/
theorem arguments_in_any_order_of_greatest :
    let args := ["--dry-run", "--seed=18446744073709551615", "4294967295", "--log-level=a=b"]
    args.Perm (arguments 4294967295 (some "a=b") none (some 18446744073709551615) true) ∧
      parse args = .ok {
        count := 4294967295, logLevel := some "a=b", seed := some 18446744073709551615
        dryRun := true } ∧
      ∃ text, positionals false args = [text] ∧ Denotes text 4294967295 := by
  intro args
  have hperm :
      args.Perm (arguments 4294967295 (some "a=b") none (some 18446744073709551615) true) := by
    decide +kernel
  obtain ⟨hany, hcount⟩ := arguments_in_any_order
  have hparse := hany 4294967295 (some "a=b") none (some 18446744073709551615) true args
    (by decide) (by decide) (by decide) hperm
  exact ⟨hperm, hparse, (hcount args _ hparse).1⟩

end MooseHerd.CommandLine
