import Mathlib.Tactic.IntervalCases
import MooseHerd.Proofs.Json.Members
import MooseHerd.Proofs.Json.Number

/-! # Documents as text

A document without blanks is read back from its text, whatever follows it: the same document, but
for the roundings of its doubles. -/

namespace MooseHerd.Json

/-! ## Strings -/

theorem readCharsWithin_escapeChar_ofNat {n : Nat} (h : n < 0x20) (fuel : Nat)
    (acc rest : List Char) :
    readCharsWithin (fuel + 1) acc (escapeChar (Char.ofNat n) ++ rest) =
      readCharsWithin fuel (Char.ofNat n :: acc) rest := by
  interval_cases n <;> rfl

/-- A character is read back from its escaped form. -/
theorem readCharsWithin_escapeChar (fuel : Nat) (acc rest : List Char) (c : Char) :
    readCharsWithin (fuel + 1) acc (escapeChar c ++ rest) =
      readCharsWithin fuel (c :: acc) rest := by
  by_cases hlow : c.toNat < 0x20
  · have hread := readCharsWithin_escapeChar_ofNat hlow fuel acc rest
    rw [Char.ofNat_toNat] at hread
    exact hread
  by_cases hquote : c = '"'
  · rw [hquote]
    rfl
  by_cases hbackslash : c = '\\'
  · rw [hbackslash]
    rfl
  have hplain : escapeChar c = [c] := by
    unfold escapeChar
    rw [if_neg hquote, if_neg hbackslash, if_neg (by omega), if_neg (by omega), if_neg (by omega),
      if_neg (by omega), if_neg (by omega), if_neg hlow]
  rw [hplain]
  change readCharsWithin (fuel + 1) acc (c :: rest) = _
  rw [readCharsWithin, if_neg hquote, if_neg hbackslash, if_neg hlow]

theorem readCharsWithin_flatMap (cs : List Char) : ∀ {fuel : Nat} (acc rest : List Char),
    cs.length < fuel → readCharsWithin fuel acc (cs.flatMap escapeChar ++ '"' :: rest) =
      .ok (acc.reverse ++ cs, rest) := by
  induction cs with
  | nil =>
    intro fuel acc rest hfuel
    obtain ⟨fuel, rfl⟩ := Nat.exists_eq_add_of_lt hfuel
    rw [List.append_nil]
    rfl
  | cons c cs ih =>
    intro fuel acc rest hfuel
    obtain ⟨fuel, rfl⟩ : ∃ f, fuel = f + 1 := ⟨fuel - 1, by omega⟩
    rw [List.flatMap_cons, List.append_assoc, readCharsWithin_escapeChar,
      ih (c :: acc) rest (Nat.lt_of_succ_lt_succ hfuel), List.reverse_cons, List.append_assoc]
    rfl

theorem length_le_length_flatMap_escapeChar (cs : List Char) :
    cs.length ≤ (cs.flatMap escapeChar).length := by
  induction cs with
  | nil => exact Nat.le_refl _
  | cons c cs ih =>
    have hpos : 1 ≤ (escapeChar c).length := by
      unfold escapeChar
      repeat' split
      all_goals exact Nat.le_add_left 1 _
    rw [List.flatMap_cons, List.length_append, List.length_cons]
    omega

/-- A string is read back after its quotation mark. -/
theorem readString_append (s : String) (rest : List Char) :
    readString (s.toList.flatMap escapeChar ++ '"' :: rest) = .ok (s, rest) := by
  have hlength := length_le_length_flatMap_escapeChar s.toList
  unfold readString
  rw [readCharsWithin_flatMap s.toList [] rest (by rw [List.length_append]; omega)]
  change Except.ok (String.ofList s.toList, rest) = _
  rw [String.ofList_toList]

/-! ## Blanks and first characters -/

theorem skipBlanks_cons {c : Char} (h : isBlank c = false) (cs : List Char) :
    skipBlanks (c :: cs) = c :: cs :=
  List.dropWhile_cons_of_neg (by rw [h]; decide)

theorem isBlank_of_isDigit {c : Char} (h : isDigit c = true) : isBlank c = false := by
  rw [isBlank, Bool.or_eq_false_iff, Bool.or_eq_false_iff, Bool.or_eq_false_iff]
  refine ⟨⟨⟨?_, ?_⟩, ?_⟩, ?_⟩
  all_goals
    rw [decide_eq_false_iff_not]
    rintro rfl
    exact absurd h (by decide)

/-- A reader that meets a digit reads a number. -/
theorem readValue_digit {c : Char} (h : isDigit c = true) (fuel depth : Nat) (cs : List Char) :
    readValue (fuel + 1) depth (c :: cs) =
      (do
        let read ← readNumber false (c :: cs)
        return (.number read.1, read.2)) := by
  rw [readValue, skipBlanks_cons (isBlank_of_isDigit h)]
  split <;> rename_i heq <;> cases heq
  all_goals first
    | exact absurd h (by decide)
    | exact if_pos h

theorem Number.exists_cons_chars {n : Number} (hn : n.IsWritable) :
    ∃ c cs, n.numeral.chars = c :: cs ∧ isDigit c = true := by
  have hwell := Number.isWellFormed_numeral hn
  obtain ⟨c, cs, hwhole⟩ := List.exists_cons_of_ne_nil hwell.whole_ne_nil
  rw [Numeral.chars, hwhole, List.cons_append]
  exact ⟨c, _, rfl, hwell.whole_digits c (by rw [hwhole]; exact List.mem_cons_self)⟩

theorem readValue_number {n : Number} (hn : n.IsWritable) (fuel depth : Nat) {rest : List Char}
    (hrest : EndsNumber rest) :
    readValue (fuel + 1) depth (n.chars ++ rest) = .ok (.number n.reread, rest) := by
  have hread := Number.readNumber_append hn hrest
  rw [Number.chars_eq hn]
  cases hsign : n.isNegative with
  | true =>
    rw [hsign] at hread
    change (do
      let read ← readNumber true (n.numeral.chars ++ rest)
      return (Json.number read.1, read.2)) = _
    rw [hread]
    rfl
  | false =>
    obtain ⟨c, cs, hchars, hdigit⟩ := Number.exists_cons_chars hn
    rw [hsign, hchars, List.cons_append] at hread
    rw [if_neg Bool.false_ne_true, List.nil_append, hchars, List.cons_append,
      readValue_digit hdigit, hread]
    rfl

/-! ## Rereading -/

mutual

/-- The document that the text of a document is read as. Only its numbers are read anew. -/
def reread : Json → Json
  | null => null
  | bool b => bool b
  | number n => number n.reread
  | string s => string s
  | array items => array (rereadItems items)
  | object members => object (rereadMembers members)

def rereadItems : List Json → List Json
  | [] => []
  | item :: rest => item.reread :: rereadItems rest

def rereadMembers : List (String × Json) → List (String × Json)
  | [] => []
  | (name, value) :: rest => (name, value.reread) :: rereadMembers rest

end

/-- A document that can be written and read: nested at most so many levels deep, with numbers that a
document can hold, and with the members of its objects in order. -/
inductive IsWritable : Nat → Json → Prop
  | null {levels : Nat} : IsWritable levels null
  | bool {levels : Nat} (b : Bool) : IsWritable levels (bool b)
  | number {levels : Nat} {n : Number} (hn : n.IsWritable) : IsWritable levels (number n)
  | string {levels : Nat} (s : String) : IsWritable levels (string s)
  | array {levels : Nat} {items : List Json} (hitems : ∀ item ∈ items, IsWritable levels item) :
    IsWritable (levels + 1) (array items)
  | object {levels : Nat} {members : List (String × Json)}
    (hnames : Keys.Ascending (members.map (·.1)))
    (hvalues : ∀ member ∈ members, IsWritable levels member.2) :
    IsWritable (levels + 1) (object members)

theorem IsWritable.ofFloat {levels : Nat} (x : Float) : IsWritable levels (ofFloat x) := by
  unfold Json.ofFloat
  split
  · rename_i hfinite
    exact .number hfinite
  · exact .null

theorem reread_ofFloat {x : Float} (h : x.isFinite = true → (Number.real x).reread = .real x) :
    (ofFloat x).reread = ofFloat x := by
  unfold Json.ofFloat
  split
  · rename_i hfinite
    rw [reread, h hfinite]
  · rfl

/-! ## Texts of arrays and objects -/

/-- Items after the first, each with its comma. -/
def furtherItems (items : List Json) : List Char := items.flatMap (',' :: compactChars ·)

theorem compactItems_cons (item : Json) (rest : List Json) :
    compactItems (item :: rest) = compactChars item ++ furtherItems rest := by
  induction rest generalizing item with
  | nil => exact (List.append_nil _).symm
  | cons next rest ih =>
    rw [compactItems, ih, furtherItems, furtherItems, List.flatMap_cons]
    · rfl
    · exact List.cons_ne_nil _ _

def memberChars (member : String × Json) : List Char :=
  quote member.1 ++ ':' :: compactChars member.2

/-- Members after the first, each with its comma. -/
def furtherMembers (members : List (String × Json)) : List Char :=
  members.flatMap (',' :: memberChars ·)

theorem compactMembers_cons (member : String × Json) (rest : List (String × Json)) :
    compactMembers (member :: rest) = memberChars member ++ furtherMembers rest := by
  induction rest generalizing member with
  | nil => exact (List.append_nil _).symm
  | cons next rest ih =>
    obtain ⟨name, value⟩ := member
    rw [compactMembers, ih, furtherMembers, furtherMembers, List.flatMap_cons]
    · simp only [memberChars, List.append_assoc, List.cons_append]
    · exact List.cons_ne_nil _ _

/-- The text of a document starts with a character that is neither blank nor the end of an array. -/
theorem exists_cons_compactChars {levels : Nat} {doc : Json} (h : IsWritable levels doc) :
    ∃ c cs, compactChars doc = c :: cs ∧ isBlank c = false ∧ c ≠ ']' := by
  cases h with
  | null => exact ⟨_, _, rfl, rfl, by decide⟩
  | bool b => cases b <;> exact ⟨_, _, rfl, rfl, by decide⟩
  | string s => exact ⟨_, _, rfl, rfl, by decide⟩
  | array _ => exact ⟨_, _, rfl, rfl, by decide⟩
  | object _ _ => exact ⟨_, _, rfl, rfl, by decide⟩
  | @number _ n hn =>
    change ∃ c cs, n.chars = c :: cs ∧ _
    rw [Number.chars_eq hn]
    cases n.isNegative with
    | true => exact ⟨_, _, rfl, rfl, by decide⟩
    | false =>
      obtain ⟨c, cs, hchars, hdigit⟩ := Number.exists_cons_chars hn
      refine ⟨c, cs, ?_, isBlank_of_isDigit hdigit, ?_⟩
      · rw [if_neg Bool.false_ne_true, List.nil_append, hchars]
      · rintro rfl
        exact absurd hdigit (by decide)

/-! ## Reading arrays and objects -/

/-- A document is read from the front of its text, with as much fuel as the text is long. -/
def ReadsBack (levels : Nat) (doc : Json) : Prop :=
  ∀ {fuel depth : Nat} {rest : List Char}, (compactChars doc).length ≤ fuel → levels ≤ depth →
    EndsNumber rest → readValue fuel depth (compactChars doc ++ rest) = .ok (doc.reread, rest)

theorem endsNumber_cons {c : Char} {rest : List Char} (h : c = ',' ∨ c = ']' ∨ c = '\x7d') :
    EndsNumber (c :: rest) := by
  intro c' hc
  cases hc
  rcases h with rfl | rfl | rfl <;> decide

theorem endsNumber_furtherItems (items : List Json) (rest : List Char) :
    EndsNumber (furtherItems items ++ ']' :: rest) := by
  cases items with
  | nil => exact endsNumber_cons (.inr (.inl rfl))
  | cons item items => exact endsNumber_cons (.inl rfl)

theorem readSeparator_first {c : Char} (hblank : isBlank c = false) (hend : c ≠ ']')
    (cs : List Char) : readSeparator true (c :: cs) = .ok (true, c :: cs) := by
  rw [readSeparator, skipBlanks_cons hblank]
  split <;> rename_i heq <;> cases heq
  · exact absurd rfl hend
  · rfl
  · rfl

theorem readSeparator_further {c : Char} (hblank : isBlank c = false) (hend : c ≠ ']')
    (cs : List Char) : readSeparator false (',' :: c :: cs) = .ok (true, c :: cs) := by
  rw [readSeparator, skipBlanks_cons rfl]
  -- that the next character does not end the array is found among the hypotheses
  simp only [Bool.false_eq_true, if_false, skipBlanks_cons hblank]

section

variable {levels fuel depth : Nat} {rest : List Char}

theorem readItems_of_separator {item : Json} {first : Bool} {cs tail : List Char}
    (hseparator : readSeparator first cs = .ok (true, compactChars item ++ tail))
    (hitem : readValue fuel depth (compactChars item ++ tail) = .ok (item.reread, tail))
    (acc : List Json) :
    readItems (fuel + 1) depth first acc cs =
      readItems fuel depth false (item.reread :: acc) tail := by
  rw [readItems, hseparator]
  change (do
    let read ← readValue fuel depth (compactChars item ++ tail)
    readItems fuel depth false (read.1 :: acc) read.2) = _
  rw [hitem]
  rfl

/-- The items after the first. -/
theorem readItems_furtherItems {items : List Json}
    (h : ∀ item ∈ items, IsWritable levels item ∧ ReadsBack levels item) (hdepth : levels ≤ depth)
    (acc : List Json) (hfuel : (furtherItems items).length < fuel) :
    readItems fuel depth false acc (furtherItems items ++ ']' :: rest) =
      .ok (array (acc.reverse ++ rereadItems items), rest) := by
  induction items generalizing fuel acc with
  | nil =>
    obtain ⟨fuel, rfl⟩ := Nat.exists_eq_succ_of_ne_zero (Nat.ne_zero_of_lt hfuel)
    rw [rereadItems, List.append_nil, readItems]
    rfl
  | cons item items ih =>
    obtain ⟨fuel, rfl⟩ := Nat.exists_eq_succ_of_ne_zero (Nat.ne_zero_of_lt hfuel)
    obtain ⟨⟨hwritable, hread⟩, hrest⟩ := List.forall_mem_cons.mp h
    obtain ⟨c, cs, hchars, hblank, hend⟩ := exists_cons_compactChars hwritable
    have htext : furtherItems (item :: items) ++ ']' :: rest =
        ',' :: (compactChars item ++ (furtherItems items ++ ']' :: rest)) := by
      simp only [furtherItems, List.flatMap_cons, List.cons_append, List.append_assoc]
    have hlength := congrArg List.length htext
    simp only [List.length_append, List.length_cons] at hlength
    have hseparator : readSeparator false
        (',' :: (compactChars item ++ (furtherItems items ++ ']' :: rest))) =
          .ok (true, compactChars item ++ (furtherItems items ++ ']' :: rest)) := by
      rw [hchars]
      exact readSeparator_further hblank hend _
    have hitem := hread (show _ ≤ fuel by omega) hdepth (endsNumber_furtherItems items rest)
    rw [htext, readItems_of_separator hseparator hitem,
      ih hrest (item.reread :: acc) (by omega), rereadItems, List.reverse_cons, List.append_assoc]
    rfl

theorem readItems_compactItems {items : List Json}
    (h : ∀ item ∈ items, IsWritable levels item ∧ ReadsBack levels item) (hdepth : levels ≤ depth)
    (hfuel : (compactItems items).length < fuel) :
    readItems fuel depth true [] (compactItems items ++ ']' :: rest) =
      .ok (array (rereadItems items), rest) := by
  obtain ⟨fuel, rfl⟩ := Nat.exists_eq_succ_of_ne_zero (Nat.ne_zero_of_lt hfuel)
  cases items with
  | nil =>
    rw [readItems]
    rfl
  | cons item items =>
    obtain ⟨⟨hwritable, hread⟩, hrest⟩ := List.forall_mem_cons.mp h
    obtain ⟨c, cs, hchars, hblank, hend⟩ := exists_cons_compactChars hwritable
    have hpos : 0 < (compactChars item).length := by
      rw [hchars]
      exact Nat.succ_pos _
    rw [compactItems_cons, List.length_append] at hfuel
    have hseparator : readSeparator true
        (compactChars item ++ (furtherItems items ++ ']' :: rest)) =
          .ok (true, compactChars item ++ (furtherItems items ++ ']' :: rest)) := by
      rw [hchars]
      exact readSeparator_first hblank hend _
    have hitem := hread (show _ ≤ fuel by omega) hdepth (endsNumber_furtherItems items rest)
    rw [compactItems_cons, List.append_assoc, readItems_of_separator hseparator hitem,
      readItems_furtherItems hrest hdepth _ (by omega)]
    rfl

theorem endsNumber_furtherMembers (members : List (String × Json)) (rest : List Char) :
    EndsNumber (furtherMembers members ++ '\x7d' :: rest) := by
  cases members with
  | nil => exact endsNumber_cons (.inr (.inr rfl))
  | cons member members => exact endsNumber_cons (.inl rfl)

theorem memberChars_append (member : String × Json) (tail : List Char) :
    memberChars member ++ tail =
      '"' :: (member.1.toList.flatMap escapeChar ++
        '"' :: (':' :: (compactChars member.2 ++ tail))) := by
  simp only [memberChars, quote, List.cons_append, List.append_assoc, List.nil_append]

theorem readName_first (member : String × Json) (tail : List Char) :
    readName true (memberChars member ++ tail) =
      .ok (some member.1, ':' :: (compactChars member.2 ++ tail)) := by
  rw [memberChars_append]
  change (do
    let read ← readString (member.1.toList.flatMap escapeChar ++
      '"' :: (':' :: (compactChars member.2 ++ tail)))
    return (some read.1, read.2)) = _
  rw [readString_append]
  rfl

theorem readName_further (member : String × Json) (tail : List Char) :
    readName false (',' :: (memberChars member ++ tail)) =
      .ok (some member.1, ':' :: (compactChars member.2 ++ tail)) := by
  rw [← readName_first, memberChars_append]
  rfl

theorem readMembers_of_name {member : String × Json} {first : Bool} {cs tail : List Char}
    (hname : readName first cs = .ok (some member.1, ':' :: (compactChars member.2 ++ tail)))
    (hvalue : readValue fuel depth (compactChars member.2 ++ tail) = .ok (member.2.reread, tail))
    (acc : List (String × Json)) :
    readMembers (fuel + 1) depth first acc cs =
      readMembers fuel depth false (insertMember member.1 member.2.reread acc) tail := by
  rw [readMembers, hname]
  change (do
    let read ← readValue fuel depth (compactChars member.2 ++ tail)
    readMembers fuel depth false (insertMember member.1 read.1 acc) read.2) = _
  rw [hvalue]
  rfl

/-- The members from one on. They come after those that were read. -/
theorem readMembers_furtherMembers {members : List (String × Json)}
    (h : ∀ member ∈ members, ReadsBack levels member.2) (hdepth : levels ≤ depth)
    {acc : List (String × Json)} (hnames : Keys.Ascending ((acc ++ members).map (·.1)))
    (hfuel : (furtherMembers members).length < fuel) :
    readMembers fuel depth false acc (furtherMembers members ++ '\x7d' :: rest) =
      .ok (object (acc ++ rereadMembers members), rest) := by
  induction members generalizing fuel acc with
  | nil =>
    obtain ⟨fuel, rfl⟩ := Nat.exists_eq_succ_of_ne_zero (Nat.ne_zero_of_lt hfuel)
    rw [rereadMembers, List.append_nil, readMembers]
    rfl
  | cons member members ih =>
    obtain ⟨fuel, rfl⟩ := Nat.exists_eq_succ_of_ne_zero (Nat.ne_zero_of_lt hfuel)
    obtain ⟨hread, hrest⟩ := List.forall_mem_cons.mp h
    have htext : furtherMembers (member :: members) ++ '\x7d' :: rest =
        ',' :: (memberChars member ++ (furtherMembers members ++ '\x7d' :: rest)) := by
      simp only [furtherMembers, List.flatMap_cons, List.cons_append, List.append_assoc]
    have hlength := congrArg List.length htext
    simp only [List.length_append, List.length_cons, memberChars] at hlength
    have hname := readName_further member (furtherMembers members ++ '\x7d' :: rest)
    have hvalue := hread (show _ ≤ fuel by omega) hdepth (endsNumber_furtherMembers members rest)
    have hlast : ∀ name ∈ acc.map (·.1), name < member.1 := by
      rw [List.map_append, List.map_cons, Keys.Ascending, List.pairwise_append] at hnames
      exact fun name hmem => hnames.2.2 name hmem member.1 List.mem_cons_self
    have hnames' :
        Keys.Ascending (((acc ++ [(member.1, member.2.reread)]) ++ members).map (·.1)) := by
      simpa using hnames
    rw [htext, readMembers_of_name hname hvalue, insertMember_of_forall_lt _ hlast,
      ih hrest hnames' (by omega), rereadMembers, List.append_assoc]
    rfl

theorem readMembers_compactMembers {members : List (String × Json)}
    (h : ∀ member ∈ members, ReadsBack levels member.2) (hdepth : levels ≤ depth)
    (hnames : Keys.Ascending (members.map (·.1))) (hfuel : (compactMembers members).length < fuel) :
    readMembers fuel depth true [] (compactMembers members ++ '\x7d' :: rest) =
      .ok (object (rereadMembers members), rest) := by
  obtain ⟨fuel, rfl⟩ := Nat.exists_eq_succ_of_ne_zero (Nat.ne_zero_of_lt hfuel)
  cases members with
  | nil =>
    rw [readMembers]
    rfl
  | cons member members =>
    obtain ⟨hread, hrest⟩ := List.forall_mem_cons.mp h
    rw [compactMembers_cons, List.length_append, memberChars, List.length_append, List.length_cons]
      at hfuel
    have hname := readName_first member (furtherMembers members ++ '\x7d' :: rest)
    have hvalue := hread (show _ ≤ fuel by omega) hdepth (endsNumber_furtherMembers members rest)
    rw [compactMembers_cons, List.append_assoc, readMembers_of_name hname hvalue, insertMember,
      readMembers_furtherMembers hrest hdepth hnames (by omega)]
    rfl

end

/-! ## Documents -/

/-- A document that can be written is read back, by induction on its nesting. -/
theorem readsBack_of_isWritable {levels : Nat} {doc : Json} (h : IsWritable levels doc) :
    ReadsBack levels doc := by
  induction h with
  | null =>
    intro fuel depth rest hfuel _ _
    obtain ⟨fuel, rfl⟩ := Nat.exists_eq_succ_of_ne_zero (Nat.ne_zero_of_lt hfuel)
    rfl
  | bool b =>
    intro fuel depth rest hfuel _ _
    cases b
    all_goals
      obtain ⟨fuel, rfl⟩ := Nat.exists_eq_succ_of_ne_zero (Nat.ne_zero_of_lt hfuel)
      rfl
  | number hn =>
    intro fuel depth rest hfuel _ hrest
    have hpos : 0 < fuel := by
      obtain ⟨c, cs, hchars, -⟩ := exists_cons_compactChars (@IsWritable.number 0 _ hn)
      rw [hchars] at hfuel
      exact Nat.lt_of_lt_of_le (Nat.succ_pos _) hfuel
    obtain ⟨fuel, rfl⟩ := Nat.exists_eq_succ_of_ne_zero hpos.ne'
    exact readValue_number hn fuel depth hrest
  | string s =>
    intro fuel depth rest hfuel _ _
    obtain ⟨fuel, rfl⟩ := Nat.exists_eq_succ_of_ne_zero (Nat.ne_zero_of_lt hfuel)
    change (do
      let read ← readString (s.toList.flatMap escapeChar ++ ['"'] ++ rest)
      return (Json.string read.1, read.2)) = _
    rw [List.append_assoc]
    change (do
      let read ← readString (s.toList.flatMap escapeChar ++ '"' :: rest)
      return (Json.string read.1, read.2)) = _
    rw [readString_append]
    rfl
  | array hitems ih =>
    intro fuel depth rest hfuel hdepth _
    rw [compactChars, List.length_cons, List.length_append] at hfuel
    obtain ⟨fuel, rfl⟩ := Nat.exists_eq_succ_of_ne_zero (Nat.ne_zero_of_lt hfuel)
    obtain ⟨depth, rfl⟩ := Nat.exists_eq_succ_of_ne_zero (Nat.ne_zero_of_lt hdepth)
    rw [compactChars, List.cons_append, List.append_assoc, reread]
    exact readItems_compactItems (fun item hitem => ⟨hitems item hitem, ih item hitem⟩)
      (Nat.le_of_succ_le_succ hdepth) (Nat.le_of_succ_le_succ hfuel)
  | object hnames hvalues ih =>
    intro fuel depth rest hfuel hdepth _
    rw [compactChars, List.length_cons, List.length_append] at hfuel
    obtain ⟨fuel, rfl⟩ := Nat.exists_eq_succ_of_ne_zero (Nat.ne_zero_of_lt hfuel)
    obtain ⟨depth, rfl⟩ := Nat.exists_eq_succ_of_ne_zero (Nat.ne_zero_of_lt hdepth)
    rw [compactChars, List.cons_append, List.append_assoc, reread]
    exact readMembers_compactMembers ih (Nat.le_of_succ_le_succ hdepth) hnames
      (Nat.le_of_succ_le_succ hfuel)

/-- **The text of a document is read as the document**, up to the roundings of its doubles. -/
theorem parse_compact {doc : Json} (h : IsWritable nestingLimit doc) :
    Json.parse doc.compact = .ok doc.reread := by
  have hfuel : (compactChars doc).length ≤ fuelFor (compactChars doc) := by
    rw [fuelFor]
    omega
  have hread := readsBack_of_isWritable h hfuel (Nat.le_refl nestingLimit)
    (show EndsNumber [] from nofun)
  rw [List.append_nil] at hread
  rw [Json.parse, compact, String.toList_ofList, hread]
  rfl

end MooseHerd.Json
