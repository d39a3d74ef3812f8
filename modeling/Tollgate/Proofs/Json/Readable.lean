import Tollgate.Proofs.Json.Decimal
import Tollgate.Proofs.Trace

namespace Tollgate.Json

/-- A value in which every number has digits, and no text holds a surrogate. -/
inductive IsPlain : Json → Prop where
  | null : IsPlain .null
  | bool (b : Bool) : IsPlain (.bool b)
  | integer (n : Int) : IsPlain (.integer n)
  | number (negative : Bool) (mantissa : Nat) (exponent : Int) :
    IsPlain (.number (.finite negative mantissa exponent))
  | text (s : Text) (scalar : s.hasSurrogate = false) : IsPlain (.text s)
  | list (items : List Json) (all : ∀ item ∈ items, IsPlain item) : IsPlain (.list items)
  | object (members : Members) (keys : ∀ member ∈ members, member.1.hasSurrogate = false)
    (all : ∀ member ∈ members, IsPlain member.2) : IsPlain (.object members)

/-- A value that JSON text can be read as: no integer has too many digits, every number is one of
the 64-bit format, and no object has a key twice. -/
inductive IsReadable : Json → Prop where
  | null : IsReadable .null
  | bool (b : Bool) : IsReadable (.bool b)
  | integer (n : Int) (short : n.natAbs < 10 ^ Integer.digitLimit) : IsReadable (.integer n)
  | number (x : Binary64) (proper : x.IsProper) : IsReadable (.number x)
  | text (s : Text) : IsReadable (.text s)
  | list (items : List Json) (all : ∀ item ∈ items, IsReadable item) : IsReadable (.list items)
  | object (members : Members) (distinct : (members.map (·.1)).Nodup)
    (all : ∀ member ∈ members, IsReadable member.2) : IsReadable (.object members)

section

variable {escape : CodePoint → Text} {value : Json}

theorem readsAs_of_isPlain (faithful : Faithful escape) (plain : IsPlain value)
    (readable : IsReadable value) : ReadsAs escape value value := by
  induction plain with
  | null => exact readsAs_null
  | bool b => exact readsAs_bool b
  | integer =>
    cases readable with
    | integer _ short => exact readsAs_integer short
  | number negative =>
    cases readable with
    | number _ proper => exact readsAs_number negative proper
  | text s scalar => exact readsAs_text (string?_written faithful scalar)
  | list items _ ih =>
    cases readable with
    | list _ all =>
      exact readsAs_list (List.forall₂_same.mpr fun item member => ih item member (all item member))
  | object members keys _ ih =>
    cases readable with
    | object _ distinct all =>
      have read : ReadsAs escape (.object members) (.object (Members.ofPairs members)) :=
        readsAs_object (List.forall₂_same.mpr fun member within =>
          ⟨string?_written faithful (keys member within), ih member within (all member within)⟩)
      rwa [ofPairs_of_nodup distinct] at read

end

section

variable {value : Json}

theorem compactItems_eq_map (escape : CodePoint → Text) (items : List Json) :
    compactItems escape items = items.map (compactWith escape) := by
  induction items with
  | nil => rfl
  | cons item items ih => rw [compactItems, ih, List.map_cons]

theorem compactMembers_eq_map (escape : CodePoint → Text) (members : Members) :
    compactMembers escape members = members.map fun member =>
      string escape member.1 ++ Text.lit ":" ++ compactWith escape member.2 := by
  induction members with
  | nil => rfl
  | cons member members ih => rw [compactMembers, ih, List.map_cons]

theorem IsPlain.hasSurrogate_compactUnicode (plain : IsPlain value) :
    (compactUnicode value).hasSurrogate = false := by
  have comma : (Text.lit ",").hasSurrogate = false := by decide
  have marks : ∀ mark ∈ ["\x7b", "\x7d", "[", "]", ":"],
      (Text.lit mark).hasSurrogate = false := by decide
  have named : (Text.lit "Infinity").isAscii = true ∧ (Text.lit "NaN").isAscii = true := by decide
  simp only [List.forall_mem_cons] at marks
  unfold compactUnicode
  induction plain with
  | null => decide
  | bool b => cases b <;> decide
  | integer n => exact Text.hasSurrogate_of_isAscii (Integer.isAscii_decimal n)
  | number negative mantissa exponent =>
    have ascii := (Binary64.finite negative mantissa exponent).isAscii_text named
    exact Text.hasSurrogate_of_isAscii ascii
  | text s scalar => exact (hasSurrogate_string s).trans scalar
  | list items _ ih =>
    simp only [compactWith, Text.hasSurrogate_append, Text.hasSurrogate_join comma, marks,
      compactItems_eq_map, List.any_map, Bool.false_or, Bool.or_false]
    exact List.any_eq_false.mpr fun item member => by simp [ih item member]
  | object members keys _ ih =>
    simp only [compactWith, Text.hasSurrogate_append, Text.hasSurrogate_join comma, marks,
      compactMembers_eq_map, List.any_map, Bool.false_or, Bool.or_false]
    refine List.any_eq_false.mpr fun member within => ?_
    simp [Text.hasSurrogate_append, hasSurrogate_string, marks, keys member within,
      ih member within]

end

section

variable {s digits rest : Text} {value : Json}

theorem natural_lt (all : ∀ c ∈ digits, c.isAsciiDigit = true) :
    Numeral.natural digits < 10 ^ digits.length := by
  induction digits with
  | nil => decide
  | cons c digits ih =>
    have first := CodePoint.isAsciiDigit_iff.mp (all c (.head _))
    have others := ih fun d member => all d (.tail _ member)
    have cut := natural_append [c] digits
    have digit : Numeral.natural [c] = c.val - 0x30 := by simp [Numeral.natural]
    rw [List.singleton_append] at cut
    have small : c.val - 0x30 ≤ 9 := by omega
    rw [cut, digit, List.length_cons, pow_succ]
    calc (c.val - 0x30) * 10 ^ digits.length + Numeral.natural digits
        < 9 * 10 ^ digits.length + 10 ^ digits.length :=
          Nat.add_lt_add_of_le_of_lt (Nat.mul_le_mul_right _ small) others
      _ = 10 ^ digits.length * 10 := by ring

theorem isAsciiDigit_of_isWhole {whole : Text} (isWhole : Numeral.IsWhole whole) :
    ∀ c ∈ whole, c.isAsciiDigit = true := by
  cases isWhole with
  | zero => exact fun _ => isAsciiDigit_of_mem_zeros (n := 1)
  | row c s _ first digits => exact List.forall_mem_cons.mpr ⟨first, digits⟩

theorem isReadable_of_value {numeral : Numeral} (spelled : numeral.IsSpelled)
    (valued : numeral.value = .ok value) : IsReadable value := by
  obtain ⟨minus, fraction, exponent, -, isWhole, -⟩ := spelled
  unfold Numeral.value at valued
  split at valued
  · split at valued
    · rename_i short
      cases valued
      have size := natural_lt (isAsciiDigit_of_isWhole isWhole)
      have limit : 10 ^ numeral.whole.length ≤ 10 ^ Integer.digitLimit :=
        Nat.pow_le_pow_right (by decide) short
      refine .integer _ (lt_of_le_of_lt ?_ (lt_of_lt_of_le size limit))
      unfold Integer.signed
      split
      · exact (Int.natAbs_neg _).le
      · exact le_rfl
    · cases valued
  · cases valued
    exact .number _ (Binary64.isProper_ofDecimal _ _ _)

theorem isReadable_of_constant (named : constant? s = some (value, rest)) : IsReadable value := by
  have all : ∀ known ∈ constants, IsReadable known.2 := by
    unfold constants
    simp only [List.forall_mem_cons]
    exact ⟨.null, .bool true, .bool false, .number _ trivial, .number _ trivial, .number _ trivial,
      nofun⟩
  obtain ⟨⟨word, other⟩, known, same⟩ := List.exists_of_findSome?_eq_some named
  dsimp only at same
  split at same
  · cases same
    exact all _ known
  · cases same

theorem isReadable_of_readScalar (read : readScalar Numeral.value s = .ok (value, rest)) :
    IsReadable value := by
  unfold readScalar at read
  split at read
  · rename_i named
    cases read
    exact isReadable_of_constant named
  · split at read
    · rename_i scanned
      obtain ⟨result, valued, same⟩ := bind_eq_ok.mp read
      cases same
      exact isReadable_of_value (Numeral.scan?_sound scanned).1 valued
    · cases read

section

variable {key : Text} {members : Members}

theorem mem_put {member : Text × Json} (within : member ∈ Members.put key value members) :
    member = (key, value) ∨ member ∈ members := by
  induction members with
  | nil => exact .inl (List.mem_singleton.mp within)
  | cons first members ih =>
    obtain ⟨k, v⟩ := first
    unfold Members.put at within
    split at within
    · rename_i same
      subst same
      exact (List.mem_cons.mp within).imp_right (.tail _)
    · rcases List.mem_cons.mp within with same | later
      · exact .inr (same ▸ .head _)
      · exact (ih later).imp_right (.tail _)

theorem nodup_put (distinct : (members.map (·.1)).Nodup) :
    ((Members.put key value members).map (·.1)).Nodup := by
  induction members with
  | nil => exact List.pairwise_singleton _ key
  | cons first members ih =>
    obtain ⟨k, v⟩ := first
    rw [List.map_cons, List.nodup_cons] at distinct
    unfold Members.put
    split
    · exact List.nodup_cons.mpr distinct
    · rename_i other
      refine List.nodup_cons.mpr ⟨fun repeated => ?_, ih distinct.2⟩
      obtain ⟨member, within, same⟩ := List.mem_map.mp repeated
      rcases mem_put within with rfl | before
      · exact other same.symm
      · exact distinct.1 (List.mem_map.mpr ⟨member, before, same⟩)

theorem isReadable_ofPairs {pairs : List (Text × Json)}
    (all : ∀ pair ∈ pairs, IsReadable pair.2) : IsReadable (.object (Members.ofPairs pairs)) := by
  suffices fold : ∀ members : Members, IsReadable (.object members) →
      IsReadable
        (.object (pairs.foldl (fun members pair => Members.put pair.1 pair.2 members) members)) from
    fold [] (.object [] List.nodup_nil nofun)
  induction pairs with
  | nil => exact fun _ readable => readable
  | cons pair pairs ih =>
    intro members readable
    refine ih (fun other within => all other (.tail _ within)) _ ?_
    cases readable with
    | object _ distinct before =>
      refine .object _ (nodup_put distinct) fun member within => ?_
      rcases mem_put within with rfl | old
      · exact all pair (.head _)
      · exact before member old

end

section

variable {number : NumberReader} {fuel : Nat}

theorem readValue_cases (read : readValue number (fuel + 1) s = .ok (value, rest)) :
    (∃ content, value = .text content) ∨
    (∃ items, value = .list items ∧
      (items = [] ∨ ∃ row, readItems number fuel row = .ok (items, rest))) ∨
    (∃ pairs, value = .object (Members.ofPairs pairs) ∧
      (pairs = [] ∨ ∃ row, readPairs number fuel row = .ok (pairs, rest))) ∨
    readScalar number s = .ok (value, rest) := by
  cases s with
  | nil => cases read
  | cons c s =>
    simp only [readValue] at read
    split at read
    · split at read
      · cases read
        exact .inl ⟨_, rfl⟩
      · cases read
    split at read
    · split at read
      · cases read
      · split at read
        · cases read
          exact .inr (.inl ⟨[], rfl, .inl rfl⟩)
        · obtain ⟨⟨items, after⟩, found, same⟩ := bind_eq_ok.mp read
          cases same
          exact .inr (.inl ⟨items, rfl, .inr ⟨_, found⟩⟩)
    split at read
    · split at read
      · cases read
      · split at read
        · cases read
          exact .inr (.inr (.inl ⟨[], rfl, .inl rfl⟩))
        · obtain ⟨⟨pairs, after⟩, found, same⟩ := bind_eq_ok.mp read
          cases same
          exact .inr (.inr (.inl ⟨pairs, rfl, .inr ⟨_, found⟩⟩))
    · exact .inr (.inr (.inr read))

theorem readItems_cases {items : List Json}
    (read : readItems number (fuel + 1) s = .ok (items, rest)) :
    ∃ item others row after, items = item :: others ∧
      readValue number fuel s = .ok (item, after) ∧
      (others = [] ∨ readItems number fuel row = .ok (others, rest)) := by
  unfold readItems at read
  obtain ⟨⟨item, after⟩, first, further⟩ := bind_eq_ok.mp read
  dsimp only at further
  split at further
  · cases further
  · split at further
    · cases further
      exact ⟨item, [], [], after, rfl, first, .inl rfl⟩
    · split at further
      · obtain ⟨⟨others, last⟩, found, same⟩ := bind_eq_ok.mp further
        cases same
        exact ⟨item, others, _, after, rfl, first, .inr found⟩
      · cases further

theorem readPairs_cases {pairs : List (Text × Json)}
    (read : readPairs number (fuel + 1) s = .ok (pairs, rest)) :
    ∃ key value others row before after, pairs = (key, value) :: others ∧
      readValue number fuel before = .ok (value, after) ∧
      (others = [] ∨ readPairs number fuel row = .ok (others, rest)) := by
  cases s with
  | nil => cases read
  | cons quote s =>
    simp only [readPairs] at read
    split at read
    · cases read
    split at read
    · cases read
    split at read
    · cases read
    obtain ⟨⟨value, after⟩, first, further⟩ := bind_eq_ok.mp read
    dsimp only at further
    split at further
    · cases further
    · split at further
      · cases further
        exact ⟨_, value, [], [], _, after, rfl, first, .inl rfl⟩
      · split at further
        · obtain ⟨⟨others, last⟩, found, same⟩ := bind_eq_ok.mp further
          cases same
          exact ⟨_, value, others, _, _, after, rfl, first, .inr found⟩
        · cases further

end

theorem isReadable_of_reading (fuel : Nat) :
    (∀ s value rest, readValue Numeral.value fuel s = .ok (value, rest) → IsReadable value) ∧
    (∀ s items rest, readItems Numeral.value fuel s = .ok (items, rest) →
      ∀ item ∈ items, IsReadable item) ∧
    ∀ s pairs rest, readPairs Numeral.value fuel s = .ok (pairs, rest) →
      ∀ pair ∈ pairs, IsReadable pair.2 := by
  induction fuel with
  | zero => exact ⟨nofun, nofun, nofun⟩
  | succ fuel ih =>
    obtain ⟨values, rows, objects⟩ := ih
    refine ⟨fun s value rest read => ?_, fun s items rest read => ?_, fun s pairs rest read => ?_⟩
    · rcases readValue_cases read with
        ⟨content, rfl⟩ | ⟨items, rfl, row⟩ | ⟨pairs, rfl, row⟩ | scalar
      · exact .text content
      · rcases row with rfl | ⟨row, found⟩
        · exact .list [] nofun
        · exact .list items (rows _ _ _ found)
      · rcases row with rfl | ⟨row, found⟩
        · exact .object [] List.nodup_nil nofun
        · exact isReadable_ofPairs (objects _ _ _ found)
      · exact isReadable_of_readScalar scalar
    · obtain ⟨item, others, row, after, rfl, first, further⟩ := readItems_cases read
      refine List.forall_mem_cons.mpr ⟨values _ _ _ first, ?_⟩
      rcases further with rfl | found
      · exact nofun
      · exact rows _ _ _ found
    · obtain ⟨key, value, others, row, before, after, rfl, first, further⟩ := readPairs_cases read
      refine List.forall_mem_cons.mpr ⟨values _ _ _ first, ?_⟩
      rcases further with rfl | found
      · exact nofun
      · exact objects _ _ _ found

theorem isReadable_of_read (read : Json.read s = .ok value) : IsReadable value := by
  obtain ⟨⟨found, rest⟩, valued, ended⟩ := bind_eq_ok.mp read
  dsimp only at ended
  split at ended
  · cases ended
    exact (isReadable_of_reading _).1 _ _ _ valued
  · cases ended

theorem read_compactWith_of_read {escape : CodePoint → Text} (faithful : Faithful escape)
    (plain : IsPlain value) (read : Json.read s = .ok value) :
    Json.read (compactWith escape value) = .ok value :=
  (readsAs_of_isPlain faithful plain (isReadable_of_read read)).read

end

end Tollgate.Json
