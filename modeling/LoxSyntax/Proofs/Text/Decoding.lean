import LoxSyntax.Token.Kind
import Mathlib.Data.List.DropRight

/-!
# Texts of bytes

Bytes are a text if they are the code of its characters. A character of the first 128 is one byte
and no other character ends in such a byte, so line ends can be taken off before or after decoding.
-/
namespace LoxSyntax.Text

/-- The text that bytes are the code of, if they are one. -/
def decode? (bytes : List UInt8) : Option String := String.fromUTF8? ⟨bytes.toArray⟩

def encode (text : List Char) : List UInt8 := text.flatMap String.utf8EncodeChar

def isEnd (c : Char) : Bool := c = '\r' || c = '\n'

/-- A text without the line ends and carriage returns it closes with. -/
def withoutEnds (text : String) : String := String.ofList (text.toList.rdropWhile isEnd)

variable {bytes : List UInt8} {text : String} {cs front : List Char} {b : UInt8} {c : Char}

theorem decode?_eq_some_iff : decode? bytes = some text ↔ encode text.toList = bytes := by
  have code : text.toByteArray.data.toList = encode text.toList := by
    rw [← String.utf8Encode_toList, List.utf8Encode, List.toList_data_toByteArray, encode]
  unfold decode? String.fromUTF8?
  constructor
  · intro h
    split at h
    · obtain rfl := Option.some.inj h
      rw [← code]
      rfl
    · cases h
  · intro h
    have same : (⟨bytes.toArray⟩ : ByteArray) = text.toByteArray := by
      rw [← h, ← code]
    rw [dif_pos (same ▸ text.isValidUTF8)]
    exact congrArg some (String.toByteArray_inj.1 same)

private theorem encode_append (cs ds : List Char) : encode (cs ++ ds) = encode cs ++ encode ds :=
  List.flatMap_append ..

private theorem utf8EncodeChar_of_lt (small : c.toNat < 128) :
    String.utf8EncodeChar c = [UInt8.ofNat c.toNat] := by
  have first : c.val.toNat ≤ 127 := Nat.le_of_lt_succ small
  simp only [String.utf8EncodeChar, if_pos first]
  rfl

private theorem exists_utf8EncodeChar_eq (large : 128 ≤ c.toNat) :
    ∃ front, String.utf8EncodeChar c = front ++ [UInt8.ofNat (c.toNat % 64 + 128)] := by
  have other : ¬c.val.toNat ≤ 127 := Nat.not_le_of_lt large
  simp only [String.utf8EncodeChar, if_neg other]
  split
  · exact ⟨[_], rfl⟩
  · split
    · exact ⟨[_, _], rfl⟩
    · exact ⟨[_, _, _], rfl⟩

private theorem encode_singleton (c : Char) : encode [c] = String.utf8EncodeChar c :=
  List.flatMap_singleton ..

private theorem encode_eq_append_iff (small : c.toNat < 128) :
    encode cs = bytes ++ [UInt8.ofNat c.toNat] ↔ ∃ ds, cs = ds ++ [c] ∧ encode ds = bytes := by
  constructor
  · intro h
    rcases List.eq_nil_or_concat cs with rfl | ⟨ds, d, rfl⟩
    · cases bytes <;> cases h
    · rw [List.concat_eq_append, encode_append, encode_singleton] at h
      rcases Nat.lt_or_ge d.toNat 128 with small' | large
      · rw [utf8EncodeChar_of_lt small'] at h
        obtain ⟨codes, last⟩ := List.append_inj' h rfl
        have same := congrArg UInt8.toNat (List.cons.inj last).1
        rw [UInt8.toNat_ofNat', UInt8.toNat_ofNat'] at same
        obtain rfl : d = c := Char.toNat_inj.1 (by omega)
        exact ⟨ds, List.concat_eq_append, codes⟩
      · obtain ⟨front, he⟩ := exists_utf8EncodeChar_eq large
        rw [he, ← List.append_assoc] at h
        have last := (List.cons.inj (List.append_inj' h rfl).2).1
        have above := congrArg UInt8.toNat last
        rw [UInt8.toNat_ofNat', UInt8.toNat_ofNat'] at above
        omega
  · rintro ⟨ds, rfl, rfl⟩
    rw [encode_append, encode_singleton, utf8EncodeChar_of_lt small]

private theorem decode?_append (small : c.toNat < 128) :
    decode? (bytes ++ [UInt8.ofNat c.toNat]) =
      (decode? bytes).map fun text => String.ofList (text.toList ++ [c]) := by
  ext text
  rw [decode?_eq_some_iff, encode_eq_append_iff small, Option.map_eq_some_iff]
  constructor
  · rintro ⟨ds, he, code⟩
    refine ⟨String.ofList ds, decode?_eq_some_iff.2 (by rwa [String.toList_ofList]), ?_⟩
    rw [String.toList_ofList, ← he, String.ofList_toList]
  · rintro ⟨front, decoded, rfl⟩
    exact ⟨front.toList, String.toList_ofList, decode?_eq_some_iff.1 decoded⟩

private theorem lt_of_isEnd (closing : isEnd c = true) : c.toNat < 128 := by
  simp only [isEnd, Bool.or_eq_true, decide_eq_true_iff] at closing
  rcases closing with rfl | rfl <;> decide

theorem decode?_append_end (closing : isEnd c = true) (bytes : List UInt8) :
    (decode? (bytes ++ [UInt8.ofNat c.toNat])).map withoutEnds =
      (decode? bytes).map withoutEnds := by
  have taken (text : String) :
      withoutEnds (String.ofList (text.toList ++ [c])) = withoutEnds text := by
    rw [withoutEnds, String.toList_ofList, List.rdropWhile_concat_pos _ _ _ closing, withoutEnds]
  rw [decode?_append (lt_of_isEnd closing), Option.map_map]
  exact congrArg (Option.map · _) (funext taken)

private theorem withoutEnds_eq_self (closed : ∀ b ∈ bytes.getLast?, b ≠ 13 ∧ b ≠ 10)
    (decoded : decode? bytes = some text) : withoutEnds text = text := by
  have kept : text.toList.rdropWhile isEnd = text.toList := by
    rw [List.rdropWhile_eq_self_iff]
    intro nonempty closing
    have code : bytes = encode text.toList.dropLast ++
        [UInt8.ofNat (text.toList.getLast nonempty).toNat] := by
      rw [← decode?_eq_some_iff.1 decoded, encode_eq_append_iff (lt_of_isEnd closing)]
      exact ⟨_, (List.dropLast_append_getLast nonempty).symm, rfl⟩
    obtain ⟨noReturn, noBreak⟩ := closed _ (by rw [code]; exact List.getLast?_concat)
    simp only [isEnd, Bool.or_eq_true, decide_eq_true_iff] at closing
    rcases closing with he | he
    · exact noReturn (by rw [he]; rfl)
    · exact noBreak (by rw [he]; rfl)
  rw [withoutEnds, kept, String.ofList_toList]

/-- In a line without its line feed, carriage returns may be taken off the bytes or the text. -/
theorem decode?_rdropWhile (unbroken : 10 ∉ bytes) :
    decode? (bytes.rdropWhile (· = 13)) = (decode? bytes).map withoutEnds := by
  induction bytes using List.reverseRecOn with
  | nil => rfl
  | append_singleton front b ih =>
    by_cases returns : b = 13
    · subst returns
      rw [List.rdropWhile_concat_pos _ _ _ (by simp),
        ih fun hb => unbroken (List.mem_append_left _ hb)]
      exact (decode?_append_end (c := '\r') rfl front).symm
    · rw [List.rdropWhile_concat_neg _ _ _ (by simpa using returns)]
      have closed : ∀ d ∈ (front ++ [b]).getLast?, d ≠ 13 ∧ d ≠ 10 := by
        rw [List.getLast?_concat]
        rintro d ⟨⟩
        exact ⟨returns, fun he => unbroken (by simp [he])⟩
      cases decoded : decode? (front ++ [b]) with
      | none => rfl
      | some text => rw [Option.map_some, withoutEnds_eq_self closed decoded]

theorem mem_encode_of_mem {ds : List Char} (small : c.toNat < 128) (h : c ∈ ds) :
    UInt8.ofNat c.toNat ∈ encode ds :=
  List.mem_flatMap.2 ⟨c, h, by simp [utf8EncodeChar_of_lt small]⟩

end LoxSyntax.Text
