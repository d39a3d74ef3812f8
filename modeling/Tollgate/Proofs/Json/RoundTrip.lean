import Mathlib.Data.List.Forall2
import Tollgate.Proofs.Json.Literal
import Tollgate.Proofs.Json.Numeral
import Tollgate.Json.Reader

namespace Tollgate.Json

theorem areWritable_iff {items : List Json} :
    areWritable items = true ↔ ∀ item ∈ items, item.isWritable = true := by
  induction items with
  | nil => simp [areWritable]
  | cons item items ih => simp [areWritable, ih]

theorem membersAreWritable_iff {members : Members} :
    membersAreWritable members = true ↔ ∀ member ∈ members, member.2.isWritable = true := by
  induction members with
  | nil => simp [membersAreWritable]
  | cons member members ih => simp [membersAreWritable, ih]

theorem areWritable_texts (names : List Text) : areWritable (names.map .text) = true :=
  areWritable_iff.mpr <| List.forall_mem_map.mpr fun _ _ => rfl

mutual

/-- Values that are read as they are written: no surrogates in texts, no key twice in an object, no
number with a fraction, and none that has too many digits. -/
def IsExact : Json → Prop
  | .null | .bool _ => True
  | .integer n => n.natAbs < 10 ^ Integer.digitLimit
  | .number _ => False
  | .text s => s.hasSurrogate = false
  | .list items => AreExact items
  | .object members => (members.map (·.1)).Nodup ∧ HasExact members

def AreExact : List Json → Prop
  | [] => True
  | item :: items => IsExact item ∧ AreExact items

def HasExact : List (Text × Json) → Prop
  | [] => True
  | (key, value) :: members => key.hasSurrogate = false ∧ IsExact value ∧ HasExact members

end

theorem put_of_not_mem {key : Text} {value : Json} {members : Members}
    (fresh : key ∉ members.map (·.1)) : members.put key value = members ++ [(key, value)] := by
  induction members with
  | nil => rfl
  | cons member members ih =>
    obtain ⟨k, v⟩ := member
    simp only [List.map_cons, List.mem_cons, not_or] at fresh
    simp only [Members.put, Ne.symm fresh.1, if_false, ih fresh.2, List.cons_append]

theorem ofPairs_of_nodup {pairs : List (Text × Json)} (distinct : (pairs.map (·.1)).Nodup) :
    Members.ofPairs pairs = pairs := by
  have fold (members : Members) (fresh : ((members ++ pairs).map (·.1)).Nodup) :
      pairs.foldl (fun members pair => members.put pair.1 pair.2) members =
        members ++ pairs := by
    clear distinct
    induction pairs generalizing members with
    | nil => simp
    | cons pair pairs ih =>
      obtain ⟨key, value⟩ := pair
      have new : key ∉ members.map (·.1) := by
        rw [List.map_append, List.nodup_append] at fresh
        exact fun member => fresh.2.2 key member key (List.mem_cons_self ..) rfl
      rw [List.foldl_cons]
      change pairs.foldl _ (members.put key value) = _
      rw [put_of_not_mem new, ih]
      · simp
      · simpa using fresh
  exact fold [] distinct

theorem constant?_named {word : String} {value : Json} (named : (word, value) ∈ constants)
    (rest : Text) : constant? (Text.lit word ++ rest) = some (value, rest) := by
  simp only [constants, List.mem_cons, List.not_mem_nil, or_false, Prod.mk.injEq] at named
  rcases named with ⟨rfl, rfl⟩ | ⟨rfl, rfl⟩ | ⟨rfl, rfl⟩ | ⟨rfl, rfl⟩ | ⟨rfl, rfl⟩ | ⟨rfl, rfl⟩
  all_goals simp [constant?, constants, Text.startsWith, Text.lit, CodePoint.ofChar]

def IsOpening (c : CodePoint) : Prop := isPadding c = false ∧ c ≠ ']'

theorem isOpening_of_digit {c : CodePoint} (digit : c.isAsciiDigit = true) : IsOpening c := by
  have other : ∀ d ∈ [' ', '\t', '\n', '\r', ']'], CodePoint.ofChar d ≠ c := by
    have noDigit : ∀ d ∈ [' ', '\t', '\n', '\r', ']'],
        (CodePoint.ofChar d).isAsciiDigit = false := by
      simp [CodePoint.isAsciiDigit, CodePoint.ofChar]
    exact fun d member => ofChar_ne_digit digit (noDigit d member)
  simp only [List.forall_mem_cons, ne_comm (b := c)] at other
  simp [IsOpening, isPadding, other]

theorem decimal_opening (n : Int) : ∃ c s, Integer.decimal n = c :: s ∧ IsOpening c ∧
    c ≠ '"' ∧ c ≠ '[' ∧ c ≠ '{' := by
  unfold Integer.decimal
  split
  · exact ⟨_, _, rfl, by simp [IsOpening, isPadding]; decide, by decide, by decide, by decide⟩
  · obtain ⟨c, s, shape⟩ := List.exists_cons_of_ne_nil (Integer.natural_ne_nil n.natAbs)
    have digit := Integer.isAsciiDigit_of_mem_natural (n := n.natAbs) (c := c) (by simp [shape])
    exact ⟨c, s, shape, isOpening_of_digit digit, (ofChar_ne_digit digit (by decide)).symm,
      (ofChar_ne_digit digit (by decide)).symm, (ofChar_ne_digit digit (by decide)).symm⟩

theorem skipPadding_mark {c : CodePoint} (mark : isPadding c = false) (s : Text) :
    skipPadding (c :: s) = c :: s := by
  simp [skipPadding, mark]

theorem string_append (escape : CodePoint → Text) (s rest : Text) :
    string escape s ++ rest =
      CodePoint.ofChar '"' :: (s.flatMap escape ++ CodePoint.ofChar '"' :: rest) := by
  simp [string, Text.lit]

section

variable {escape : CodePoint → Text} {number : NumberReader}

theorem readValue_text {s result rest : Text}
    (read : string? (s.flatMap escape ++ CodePoint.ofChar '"' :: rest) = some (result, rest))
    (fuel : Nat) :
    readValue number (fuel + 1) (string escape s ++ rest) = .ok (.text result, rest) := by
  rw [string_append]
  simp only [readValue, if_true, read]

theorem readValue_scalar {c : CodePoint} (noText : c ≠ '"') (noList : c ≠ '[') (noObject : c ≠ '{')
    (s : Text) (fuel : Nat) :
    readValue number (fuel + 1) (c :: s) = readScalar number (c :: s) := by
  simp only [readValue, noText, noList, noObject, if_false]

theorem readValue_constant {c : CodePoint} (noText : c ≠ '"') (noList : c ≠ '[')
    (noObject : c ≠ '{') {s rest : Text} {value : Json} (fuel : Nat)
    (named : constant? (c :: s) = some (value, rest)) :
    readValue number (fuel + 1) (c :: s) = .ok (value, rest) := by
  rw [readValue_scalar noText noList noObject]
  simp only [readScalar, named]

theorem readValue_items {c : CodePoint} {s rest : Text} {fuel : Nat} {items : List Json}
    (opening : IsOpening c) (read : readItems number fuel (c :: s) = .ok (items, rest)) :
    readValue number (fuel + 1) (CodePoint.ofChar '[' :: c :: s) = .ok (.list items, rest) := by
  have noText : CodePoint.ofChar '[' ≠ '"' := by decide
  simp only [readValue, noText, if_false, if_true, skipPadding_mark opening.1, opening.2, read]
  rfl

theorem readValue_pairs {s rest : Text} {fuel : Nat} {pairs : List (Text × Json)}
    (read : readPairs number fuel (CodePoint.ofChar '"' :: s) = .ok (pairs, rest)) :
    readValue number (fuel + 1) (CodePoint.ofChar '{' :: CodePoint.ofChar '"' :: s) =
      .ok (.object (Members.ofPairs pairs), rest) := by
  have noText : CodePoint.ofChar '{' ≠ '"' := by decide
  have noList : CodePoint.ofChar '{' ≠ '[' := by decide
  have noEnd : CodePoint.ofChar '"' ≠ '}' := by decide
  have mark : isPadding (CodePoint.ofChar '"') = false := by decide
  simp only [readValue, noText, noList, noEnd, if_false, if_true, skipPadding_mark mark, read]
  rfl

theorem readItems_last {s rest : Text} {fuel : Nat} {item : Json}
    (read : readValue number fuel s = .ok (item, CodePoint.ofChar ']' :: rest)) :
    readItems number (fuel + 1) s = .ok ([item], rest) := by
  have mark : isPadding (CodePoint.ofChar ']') = false := by decide
  simp only [readItems, read, bind, Except.bind, skipPadding_mark mark, if_true]
  rfl

theorem readItems_next {c : CodePoint} {s t rest : Text} {fuel : Nat} {item : Json}
    {items : List Json} (opening : IsOpening c)
    (read : readValue number fuel s = .ok (item, CodePoint.ofChar ',' :: c :: t))
    (others : readItems number fuel (c :: t) = .ok (items, rest)) :
    readItems number (fuel + 1) s = .ok (item :: items, rest) := by
  have mark : isPadding (CodePoint.ofChar ',') = false := by decide
  have noEnd : CodePoint.ofChar ',' ≠ ']' := by decide
  simp only [readItems, read, bind, Except.bind, skipPadding_mark mark, noEnd, if_true, if_false,
    skipPadding_mark opening.1, others]
  rfl

theorem readPairs_last {key s t rest : Text} {c : CodePoint} {fuel : Nat} {value : Json}
    (name : string? s = some (key, CodePoint.ofChar ':' :: c :: t)) (opening : IsOpening c)
    (read : readValue number fuel (c :: t) = .ok (value, CodePoint.ofChar '}' :: rest)) :
    readPairs number (fuel + 1) (CodePoint.ofChar '"' :: s) = .ok ([(key, value)], rest) := by
  have colon : isPadding (CodePoint.ofChar ':') = false := by decide
  have mark : isPadding (CodePoint.ofChar '}') = false := by decide
  simp only [readPairs, name, if_true, skipPadding_mark colon, ne_eq, not_true_eq_false, if_false,
    skipPadding_mark opening.1, read, bind, Except.bind, skipPadding_mark mark]
  rfl

theorem readPairs_next {key s t u rest : Text} {c : CodePoint} {fuel : Nat} {value : Json}
    {pairs : List (Text × Json)}
    (name : string? s = some (key, CodePoint.ofChar ':' :: c :: t)) (opening : IsOpening c)
    (read : readValue number fuel (c :: t) =
      .ok (value, CodePoint.ofChar ',' :: CodePoint.ofChar '"' :: u))
    (others : readPairs number fuel (CodePoint.ofChar '"' :: u) = .ok (pairs, rest)) :
    readPairs number (fuel + 1) (CodePoint.ofChar '"' :: s) =
      .ok ((key, value) :: pairs, rest) := by
  have colon : isPadding (CodePoint.ofChar ':') = false := by decide
  have comma : isPadding (CodePoint.ofChar ',') = false := by decide
  have quote : isPadding (CodePoint.ofChar '"') = false := by decide
  have noEnd : CodePoint.ofChar ',' ≠ '}' := by decide
  simp only [readPairs, name, if_true, skipPadding_mark colon, ne_eq, not_true_eq_false, if_false,
    skipPadding_mark opening.1, read, bind, Except.bind, skipPadding_mark comma, noEnd,
    skipPadding_mark quote, others]
  rfl

end

section

variable {escape : CodePoint → Text}

def itemsText (escape : CodePoint → Text) (items : List Json) : Text :=
  Text.join (Text.lit ",") (compactItems escape items)

def membersText (escape : CodePoint → Text) (members : List (Text × Json)) : Text :=
  Text.join (Text.lit ",") (compactMembers escape members)

theorem compactWith_list_append (items : List Json) (rest : Text) :
    compactWith escape (.list items) ++ rest =
      CodePoint.ofChar '[' :: (itemsText escape items ++ CodePoint.ofChar ']' :: rest) := by
  simp [compactWith, itemsText, Text.lit]

theorem compactWith_object_append (members : List (Text × Json)) (rest : Text) :
    compactWith escape (.object members) ++ rest =
      CodePoint.ofChar '{' :: (membersText escape members ++ CodePoint.ofChar '}' :: rest) := by
  simp [compactWith, membersText, Text.lit]

theorem itemsText_single (item : Json) : itemsText escape [item] = compactWith escape item := rfl

theorem itemsText_cons (item next : Json) (items : List Json) :
    itemsText escape (item :: next :: items) =
      compactWith escape item ++ CodePoint.ofChar ',' :: itemsText escape (next :: items) := by
  simp [itemsText, compactItems, Text.join, Text.lit]

theorem membersText_single (key : Text) (value : Json) :
    membersText escape [(key, value)] =
      string escape key ++ CodePoint.ofChar ':' :: compactWith escape value := by
  simp [membersText, compactMembers, Text.join, Text.lit]

theorem membersText_cons (key : Text) (value : Json) (next : Text × Json)
    (members : List (Text × Json)) :
    membersText escape ((key, value) :: next :: members) =
      string escape key ++ CodePoint.ofChar ':' :: (compactWith escape value ++
        CodePoint.ofChar ',' :: membersText escape (next :: members)) := by
  obtain ⟨nextKey, nextValue⟩ := next
  simp [membersText, compactMembers, Text.join, Text.lit]

theorem membersText_opening (escape : CodePoint → Text) (member : Text × Json)
    (members : List (Text × Json)) :
    ∃ s, membersText escape (member :: members) = CodePoint.ofChar '"' :: s := by
  obtain ⟨key, value⟩ := member
  cases members with
  | nil =>
    rw [membersText_single, string_append]
    exact ⟨_, rfl⟩
  | cons next members =>
    rw [membersText_cons, string_append]
    exact ⟨_, rfl⟩

theorem EndsNumeral.of_mark {c : CodePoint} (mark : c = ',' ∨ c = ']' ∨ c = '}') (rest : Text) :
    EndsNumeral (c :: rest) :=
  .inr ⟨c, rest, rfl, mark⟩

/-- The text of one value is read as another value, whatever follows that does not go on with a
numeral. -/
structure ReadsAs (escape : CodePoint → Text) (value result : Json) : Prop where
  opens : ∃ c s, compactWith escape value = c :: s ∧ IsOpening c
  reads : ∀ (rest : Text) (fuel : Nat), EndsNumeral rest →
    2 * (compactWith escape value ++ rest).length < fuel →
    readValue Numeral.value fuel (compactWith escape value ++ rest) = .ok (result, rest)

def TextReadsAs (escape : CodePoint → Text) (s result : Text) : Prop :=
  ∀ rest, string? (s.flatMap escape ++ CodePoint.ofChar '"' :: rest) = some (result, rest)

def MemberReadsAs (escape : CodePoint → Text) (member result : Text × Json) : Prop :=
  TextReadsAs escape member.1 result.1 ∧ ReadsAs escape member.2 result.2

theorem itemsText_opening {item result : Json} (first : ReadsAs escape item result)
    (items : List Json) : ∃ c s, itemsText escape (item :: items) = c :: s ∧ IsOpening c := by
  obtain ⟨c, s, shape, opening⟩ := first.opens
  cases items with
  | nil => exact ⟨c, s, shape, opening⟩
  | cons next items =>
    rw [itemsText_cons, shape]
    exact ⟨c, _, rfl, opening⟩

theorem readItems_written {items results : List Json}
    (all : List.Forall₂ (ReadsAs escape) items results) (nonempty : items ≠ []) (rest : Text)
    (fuel : Nat)
    (enough : 2 * (itemsText escape items ++ CodePoint.ofChar ']' :: rest).length + 1 < fuel) :
    readItems Numeral.value fuel (itemsText escape items ++ CodePoint.ofChar ']' :: rest) =
      .ok (results, rest) := by
  induction all generalizing fuel with
  | nil => exact absurd rfl nonempty
  | @cons item result items results first others ih =>
    cases fuel with
    | zero => exact absurd enough (Nat.not_lt_zero _)
    | succ fuel =>
      cases others with
      | nil =>
        rw [itemsText_single] at enough ⊢
        exact readItems_last (first.reads _ fuel (.of_mark (.inr (.inl rfl)) rest) (by omega))
      | @cons next _ items _ second tail =>
        -- the comma ends the item, so that nothing goes on with it if it is a numeral
        obtain ⟨c, s, shape, opening⟩ := itemsText_opening second items
        rw [itemsText_cons, List.append_assoc, List.cons_append] at enough ⊢
        have read := first.reads (CodePoint.ofChar ',' ::
          (itemsText escape (next :: items) ++ CodePoint.ofChar ']' :: rest)) fuel
          (.of_mark (.inl rfl) _) (by omega)
        have others := ih nofun fuel
          (by simp only [List.length_append, List.length_cons] at enough ⊢; omega)
        rw [shape, List.cons_append] at read others ⊢
        exact readItems_next opening read others

theorem readPairs_written {members results : List (Text × Json)}
    (all : List.Forall₂ (MemberReadsAs escape) members results) (nonempty : members ≠ [])
    (rest : Text) (fuel : Nat)
    (enough : 2 * (membersText escape members ++ CodePoint.ofChar '}' :: rest).length + 1 < fuel) :
    readPairs Numeral.value fuel (membersText escape members ++ CodePoint.ofChar '}' :: rest) =
      .ok (results, rest) := by
  induction all generalizing fuel with
  | nil => exact absurd rfl nonempty
  | @cons member result members results first others ih =>
    obtain ⟨key, value⟩ := member
    obtain ⟨named, held⟩ := first
    obtain ⟨c, s, shape, opening⟩ := held.opens
    cases fuel with
    | zero => exact absurd enough (Nat.not_lt_zero _)
    | succ fuel =>
      cases others with
      | nil =>
        rw [membersText_single, List.append_assoc, List.cons_append, string_append] at enough ⊢
        have name := named (CodePoint.ofChar ':' ::
          (compactWith escape value ++ CodePoint.ofChar '}' :: rest))
        have read := held.reads (CodePoint.ofChar '}' :: rest) fuel
          (.of_mark (.inr (.inr rfl)) rest)
          (by simp only [List.length_append, List.length_cons] at enough ⊢; omega)
        rw [shape, List.cons_append] at name read ⊢
        exact readPairs_last name opening read
      | @cons next _ members _ second tail =>
        obtain ⟨t, start⟩ := membersText_opening escape next members
        rw [membersText_cons, List.append_assoc, List.cons_append, List.append_assoc,
          List.cons_append, string_append] at enough ⊢
        have name := named (CodePoint.ofChar ':' ::
          (compactWith escape value ++ CodePoint.ofChar ',' ::
            (membersText escape (next :: members) ++ CodePoint.ofChar '}' :: rest)))
        have read := held.reads (CodePoint.ofChar ',' ::
          (membersText escape (next :: members) ++ CodePoint.ofChar '}' :: rest)) fuel
          (.of_mark (.inl rfl) _)
          (by simp only [List.length_append, List.length_cons] at enough ⊢; omega)
        have others := ih nofun fuel
          (by simp only [List.length_append, List.length_cons] at enough ⊢; omega)
        rw [start, List.cons_append] at name read others ⊢
        rw [shape, List.cons_append] at name read ⊢
        exact readPairs_next name opening read others

theorem readsAs_of_step {value result : Json}
    (opens : ∃ c s, compactWith escape value = c :: s ∧ IsOpening c)
    (step : ∀ (rest : Text) (fuel : Nat), EndsNumeral rest →
      2 * (compactWith escape value ++ rest).length ≤ fuel →
      readValue Numeral.value (fuel + 1) (compactWith escape value ++ rest) = .ok (result, rest)) :
    ReadsAs escape value result where
  opens
  reads rest fuel ends enough := by
    cases fuel with
    | zero => exact absurd enough (Nat.not_lt_zero _)
    | succ fuel => exact step rest fuel ends (Nat.le_of_lt_succ enough)

theorem readsAs_null : ReadsAs escape .null .null :=
  readsAs_of_step ⟨_, _, rfl, by simp [IsOpening, isPadding]; decide⟩ fun rest fuel _ _ =>
    readValue_constant (by decide) (by decide) (by decide) fuel (constant?_named (.head _) rest)

theorem readsAs_bool (b : Bool) : ReadsAs escape (.bool b) (.bool b) := by
  cases b with
  | true =>
    exact readsAs_of_step ⟨_, _, rfl, by simp [IsOpening, isPadding]; decide⟩ fun rest fuel _ _ =>
      readValue_constant (by decide) (by decide) (by decide) fuel
        (constant?_named (.tail _ (.head _)) rest)
  | false =>
    exact readsAs_of_step ⟨_, _, rfl, by simp [IsOpening, isPadding]; decide⟩ fun rest fuel _ _ =>
      readValue_constant (by decide) (by decide) (by decide) fuel
        (constant?_named (.tail _ (.tail _ (.head _))) rest)

theorem readsAs_integer {n : Int} (short : n.natAbs < 10 ^ Integer.digitLimit) :
    ReadsAs escape (.integer n) (.integer n) := by
  obtain ⟨c, s, shape, opening, noText, noList, noObject⟩ := decimal_opening n
  refine readsAs_of_step ⟨c, s, shape, opening⟩ fun rest fuel ends _ => ?_
  have scalar := readScalar_decimal ends short
  simp only [compactWith]
  rw [shape] at scalar ⊢
  exact (readValue_scalar noText noList noObject _ fuel).trans scalar

theorem readsAs_text {s result : Text} (read : TextReadsAs escape s result) :
    ReadsAs escape (.text s) (.text result) :=
  readsAs_of_step ⟨_, _, rfl, by simp [IsOpening, isPadding]; decide⟩ fun rest fuel _ _ =>
    readValue_text (read rest) fuel

theorem readsAs_list {items results : List Json}
    (all : List.Forall₂ (ReadsAs escape) items results) :
    ReadsAs escape (.list items) (.list results) := by
  refine readsAs_of_step ⟨_, _, rfl, by simp [IsOpening, isPadding]; decide⟩
    fun rest fuel _ enough => ?_
  rw [compactWith_list_append] at enough ⊢
  cases all with
  | nil =>
    have noText : CodePoint.ofChar '[' ≠ '"' := by decide
    have mark : isPadding (CodePoint.ofChar ']') = false := by decide
    change readValue Numeral.value (fuel + 1)
      (CodePoint.ofChar '[' :: CodePoint.ofChar ']' :: rest) = _
    simp only [readValue, noText, if_false, if_true, skipPadding_mark mark]
  | @cons item _ items _ first others =>
    have read := readItems_written (.cons first others) nofun rest fuel
      (by simp only [List.length_cons] at enough; omega)
    obtain ⟨c, s, shape, opening⟩ := itemsText_opening first items
    rw [shape] at read ⊢
    exact readValue_items opening read

theorem readsAs_object {members results : List (Text × Json)}
    (all : List.Forall₂ (MemberReadsAs escape) members results) :
    ReadsAs escape (.object members) (.object (Members.ofPairs results)) := by
  refine readsAs_of_step ⟨_, _, rfl, by simp [IsOpening, isPadding]; decide⟩
    fun rest fuel _ enough => ?_
  rw [compactWith_object_append] at enough ⊢
  cases all with
  | nil =>
    have noText : CodePoint.ofChar '{' ≠ '"' := by decide
    have noList : CodePoint.ofChar '{' ≠ '[' := by decide
    have mark : isPadding (CodePoint.ofChar '}') = false := by decide
    change readValue Numeral.value (fuel + 1)
      (CodePoint.ofChar '{' :: CodePoint.ofChar '}' :: rest) = _
    simp only [readValue, noText, noList, if_false, if_true, skipPadding_mark mark]
    rfl
  | @cons member _ members _ first others =>
    have read := readPairs_written (.cons first others) nofun rest fuel
      (by simp only [List.length_cons] at enough; omega)
    obtain ⟨s, shape⟩ := membersText_opening escape member members
    rw [shape] at read ⊢
    exact readValue_pairs read

theorem ReadsAs.read {value result : Json} (reads : ReadsAs escape value result) :
    read (compactWith escape value) = .ok result := by
  obtain ⟨c, s, shape, opening⟩ := reads.opens
  have start : skipPadding (compactWith escape value) = compactWith escape value := by
    rw [shape]
    exact skipPadding_mark opening.1 s
  have whole := reads.reads [] (fuelFor (compactWith escape value)) (.inl rfl)
    (by rw [List.append_nil]; exact Nat.lt_succ_self _)
  rw [List.append_nil] at whole
  simp only [Json.read, readWith, start, whole]
  rfl

mutual

theorem readsAs_of_isExact (faithful : Faithful escape) :
    ∀ value : Json, IsExact value → ReadsAs escape value value
  | .null, _ => readsAs_null
  | .bool b, _ => readsAs_bool b
  | .integer _, short => readsAs_integer short
  | .number _, exact => exact.elim
  | .text _, scalar => readsAs_text (string?_written faithful scalar)
  | .list items, exact => readsAs_list (readsAs_of_areExact faithful items exact)
  | .object members, exact => by
    have read := readsAs_object (readsAs_of_hasExact faithful members exact.2)
    rwa [ofPairs_of_nodup exact.1] at read

theorem readsAs_of_areExact (faithful : Faithful escape) :
    ∀ items : List Json, AreExact items → List.Forall₂ (ReadsAs escape) items items
  | [], _ => .nil
  | item :: items, exact =>
    .cons (readsAs_of_isExact faithful item exact.1) (readsAs_of_areExact faithful items exact.2)

theorem readsAs_of_hasExact (faithful : Faithful escape) :
    ∀ members : List (Text × Json), HasExact members →
      List.Forall₂ (MemberReadsAs escape) members members
  | [], _ => .nil
  | (_, value) :: members, exact =>
    .cons ⟨string?_written faithful exact.1, readsAs_of_isExact faithful value exact.2.1⟩
      (readsAs_of_hasExact faithful members exact.2.2)

end

theorem read_compactWith (faithful : Faithful escape) {value : Json} (exact : IsExact value) :
    read (compactWith escape value) = .ok value :=
  (readsAs_of_isExact faithful value exact).read

end

end Tollgate.Json
