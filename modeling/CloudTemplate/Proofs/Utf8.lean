import Mathlib.Data.String.Basic
import Mathlib.Tactic.SplitIfs
import CloudTemplate.Text.Utf8
import CloudTemplate.Proofs.Outcome

/-!
# The bytes of a text determine it

The decoder and the encoder are written apart: one takes bytes from the front and adds up what
they carry, the other writes the bits of a code point into bytes. Between them stands a relation
(`Sequence`): the sequences of one, two, three and four bytes and the character of each. The
encoder writes for every character its sequence (`Sequence.of_char`, `Sequence.encoded`), and the
decoder takes a sequence from the front for the character (`Sequence.decoded`).

It follows that bytes are decoded to a text if and only if the text is encoded as these bytes
(`utf8Decode_eq_ok_iff`): what is decoded has no form longer than needed and no surrogate, and two
texts with the same bytes are the same text (`utf8Encode_injective`). The order of texts by their
characters is that by their bytes (`utf8Encode_lt`).
-/

set_option autoImplicit false

namespace CloudTemplate.Text

/-! ## Size -/

theorem utf8Size_eq (text : List Char) : utf8Size text = String.utf8Len text := by
  have sum : ∀ size : Nat,
      text.foldl (fun size c => size + c.utf8Size) size = size + String.utf8Len text := by
    induction text with
    | nil => exact fun _ => rfl
    | cons c text ih =>
      intro size
      rw [List.foldl_cons, ih, String.utf8Len_cons]
      omega
  exact (sum 0).trans (Nat.zero_add _)

theorem utf8Size_append (text more : List Char) :
    utf8Size (text ++ more) = utf8Size text + utf8Size more := by
  rw [utf8Size_eq, utf8Size_eq, utf8Size_eq, String.utf8Len_append]

/-! ## Sequences of bytes -/

/-- The bytes that continue a character, as numbers. -/
theorem isContinuation_iff {byte : UInt8} :
    isContinuation byte = true ↔ 128 ≤ byte.toNat ∧ byte.toNat ≤ 191 := by
  simp [isContinuation, UInt8.le_iff_toNat_le]

/-- The second bytes of a character, as numbers. Four leading bytes narrow the range. -/
theorem isSecond_iff {first second : UInt8} :
    isSecond first second = true ↔
      (128 ≤ second.toNat ∧ second.toNat ≤ 191) ∧
        (first.toNat = 0xE0 → 160 ≤ second.toNat) ∧ (first.toNat = 0xED → second.toNat ≤ 159) ∧
        (first.toNat = 0xF0 → 144 ≤ second.toNat) ∧ (first.toNat = 0xF4 → second.toNat ≤ 143) := by
  simp [isSecond, isContinuation, ← UInt8.toNat_inj, UInt8.le_iff_toNat_le]
  split_ifs <;> omega

/-- The bytes of a character: what the leading byte and those that continue it may be, and the
code point that their bits add up to. -/
inductive Sequence : List UInt8 → Char → Prop where
  | one {first : UInt8} {c : Char} (lead : first < 0x80) (code : c.toNat = first.toNat) :
      Sequence [first] c
  | two {first second : UInt8} {c : Char} (lead : 0xC2 ≤ first ∧ first ≤ 0xDF)
      (continued : isContinuation second = true)
      (code : c.toNat = first.toNat % 32 * 64 + payload second) :
      Sequence [first, second] c
  | three {first second third : UInt8} {c : Char} (lead : 0xE0 ≤ first ∧ first ≤ 0xEF)
      (continued : isSecond first second = true ∧ isContinuation third = true)
      (code : c.toNat = first.toNat % 16 * 4096 + payload second * 64 + payload third) :
      Sequence [first, second, third] c
  | four {first second third fourth : UInt8} {c : Char} (lead : 0xF0 ≤ first ∧ first ≤ 0xF4)
      (continued : isSecond first second = true ∧ isContinuation third = true ∧
        isContinuation fourth = true)
      (code : c.toNat = first.toNat % 8 * 262144 + payload second * 4096 + payload third * 64 +
        payload fourth) :
      Sequence [first, second, third, fourth] c

/-- A code point that is no surrogate is that of its character. -/
theorem toNat_ofNat {code : Nat} (valid : code < 55296 ∨ 57343 < code ∧ code < 1114112) :
    (Char.ofNat code).toNat = code := by
  rw [Char.ofNat, dif_pos valid]
  rfl

/-- A byte is determined by its number. -/
theorem ofNat_eq (byte : UInt8) {code : Nat} (same : code = byte.toNat) :
    UInt8.ofNat code = byte := by
  rw [same, UInt8.ofNat_toNat]

/-- A leading byte of a longer sequence is above those of a shorter one. -/
theorem not_le_of_lead {first low limit : UInt8} (lead : low ≤ first) (above : limit < low) :
    ¬first ≤ limit :=
  UInt8.not_le.2 (UInt8.lt_of_lt_of_le above lead)

namespace Sequence

/-- A character is encoded as its sequence. The size of the code point, which the encoder looks
at, follows from the leading byte. -/
theorem encoded {bytes : List UInt8} {c : Char} (sequence : Sequence bytes c) :
    String.utf8EncodeChar c = bytes := by
  simp only [String.utf8EncodeChar, Char.toNat_val]
  cases sequence with
  | @one first c lead code =>
    have small : first.toNat < 128 := UInt8.lt_iff_toNat_lt.1 lead
    rw [code, if_pos (by omega), UInt8.ofNat_toNat]
  | @two first second c lead continued code =>
    have low : 194 ≤ first.toNat := UInt8.le_iff_toNat_le.1 lead.1
    have high : first.toNat ≤ 223 := UInt8.le_iff_toNat_le.1 lead.2
    rw [isContinuation_iff] at continued
    unfold payload at code
    rw [if_neg (by omega), if_pos (by omega), ofNat_eq first (by omega),
      ofNat_eq second (by omega)]
  | @three first second third c lead continued code =>
    have low : 224 ≤ first.toNat := UInt8.le_iff_toNat_le.1 lead.1
    have high : first.toNat ≤ 239 := UInt8.le_iff_toNat_le.1 lead.2
    rw [isSecond_iff, isContinuation_iff] at continued
    unfold payload at code
    rw [if_neg (by omega), if_neg (by omega), if_pos (by omega),
      ofNat_eq first (by omega), ofNat_eq second (by omega),
      ofNat_eq third (by omega)]
  | @four first second third fourth c lead continued code =>
    have low : 240 ≤ first.toNat := UInt8.le_iff_toNat_le.1 lead.1
    have high : first.toNat ≤ 244 := UInt8.le_iff_toNat_le.1 lead.2
    rw [isSecond_iff, isContinuation_iff, isContinuation_iff] at continued
    unfold payload at code
    rw [if_neg (by omega), if_neg (by omega), if_neg (by omega),
      ofNat_eq first (by omega), ofNat_eq second (by omega),
      ofNat_eq third (by omega), ofNat_eq fourth (by omega)]

/-- Every character has a sequence, which is what the encoder writes. That the second byte is in
its narrower range is what a code point says that is not too small for its length, no surrogate
and not beyond the last one. -/
theorem of_char (c : Char) : Sequence (String.utf8EncodeChar c) c := by
  have valid : c.toNat < 55296 ∨ 57343 < c.toNat ∧ c.toNat < 1114112 := c.valid
  have small : ∀ n < 256, ∃ byte : UInt8, UInt8.ofNat n = byte ∧ byte.toNat = n :=
    fun n bound => ⟨_, rfl, UInt8.toNat_ofNat_of_lt' bound⟩
  simp only [String.utf8EncodeChar, Char.toNat_val]
  split_ifs with one two three
  · obtain ⟨first, lead, value⟩ := small c.toNat (by omega)
    rw [lead]
    exact .one (UInt8.lt_iff_toNat_lt.2 (show first.toNat < 128 by omega)) value.symm
  · obtain ⟨first, lead, value⟩ := small (c.toNat / 64 % 32 + 192) (by omega)
    obtain ⟨second, last, _⟩ := small (c.toNat % 64 + 128) (by omega)
    rw [lead, last]
    exact .two ⟨UInt8.le_iff_toNat_le.2 (show 194 ≤ first.toNat by omega),
        UInt8.le_iff_toNat_le.2 (show first.toNat ≤ 223 by omega)⟩
      (isContinuation_iff.2 (by omega)) (by unfold payload; omega)
  · obtain ⟨first, lead, value⟩ := small (c.toNat / 4096 % 16 + 224) (by omega)
    obtain ⟨second, next, _⟩ := small (c.toNat / 64 % 64 + 128) (by omega)
    obtain ⟨third, last, _⟩ := small (c.toNat % 64 + 128) (by omega)
    rw [lead, next, last]
    exact .three ⟨UInt8.le_iff_toNat_le.2 (show 224 ≤ first.toNat by omega),
        UInt8.le_iff_toNat_le.2 (show first.toNat ≤ 239 by omega)⟩
      ⟨isSecond_iff.2 (by omega), isContinuation_iff.2 (by omega)⟩ (by unfold payload; omega)
  · obtain ⟨first, lead, value⟩ := small (c.toNat / 262144 % 8 + 240) (by omega)
    obtain ⟨second, next, _⟩ := small (c.toNat / 4096 % 64 + 128) (by omega)
    obtain ⟨third, inner, _⟩ := small (c.toNat / 64 % 64 + 128) (by omega)
    obtain ⟨fourth, last, _⟩ := small (c.toNat % 64 + 128) (by omega)
    rw [lead, next, inner, last]
    exact .four ⟨UInt8.le_iff_toNat_le.2 (show 240 ≤ first.toNat by omega),
        UInt8.le_iff_toNat_le.2 (show first.toNat ≤ 244 by omega)⟩
      ⟨isSecond_iff.2 (by omega), isContinuation_iff.2 (by omega),
        isContinuation_iff.2 (by omega)⟩
      (by unfold payload; omega)

/-- A sequence at the front is decoded to its character, and what follows it is decoded next. -/
theorem decoded {bytes : List UInt8} {c : Char} (sequence : Sequence bytes c) (index : Nat)
    (rest : List UInt8) :
    utf8DecodeFrom index (bytes ++ rest) =
      (utf8DecodeFrom (index + bytes.length) rest).map (c :: ·) := by
  have same : ∀ code, c.toNat = code → Char.ofNat code = c := by
    rintro _ rfl
    exact Char.ofNat_toNat c
  cases sequence with
  | @one first c lead code =>
    rw [List.singleton_append, utf8DecodeFrom.eq_def]
    simp [lead, same _ code]
  | @two first second c lead continued code =>
    have above : ¬first < 0x80 := UInt8.not_lt.2 (UInt8.le_trans (by decide) lead.1)
    simp [utf8DecodeFrom, above, lead, continued, same _ code]
  | @three first second third c lead continued code =>
    have above : ¬first < 0x80 := UInt8.not_lt.2 (UInt8.le_trans (by decide) lead.1)
    have two : ¬first ≤ 0xDF := not_le_of_lead lead.1 (by decide)
    simp [utf8DecodeFrom, above, two, lead, continued, same _ code]
  | @four first second third fourth c lead continued code =>
    have above : ¬first < 0x80 := UInt8.not_lt.2 (UInt8.le_trans (by decide) lead.1)
    have two : ¬first ≤ 0xDF := not_le_of_lead lead.1 (by decide)
    have three : ¬first ≤ 0xEF := not_le_of_lead lead.1 (by decide)
    simp [utf8DecodeFrom, above, two, three, lead, continued, same _ code]

end Sequence

/-! ## Texts -/

@[simp]
theorem utf8Encode_nil : utf8Encode [] = [] :=
  rfl

theorem utf8Encode_cons (c : Char) (text : List Char) :
    utf8Encode (c :: text) = String.utf8EncodeChar c ++ utf8Encode text :=
  List.flatMap_cons

theorem utf8Encode_append (text rest : List Char) :
    utf8Encode (text ++ rest) = utf8Encode text ++ utf8Encode rest :=
  List.flatMap_append

/-- The bytes of a text are decoded to the text. -/
theorem utf8DecodeFrom_encode (index : Nat) (text : List Char) :
    utf8DecodeFrom index (utf8Encode text) = .ok text := by
  induction text generalizing index with
  | nil => rw [utf8Encode_nil, utf8DecodeFrom]
  | cons c text ih =>
    rw [utf8Encode_cons, (Sequence.of_char c).decoded, ih]
    rfl

/-- A sequence at the front of what is decoded is what its character is encoded as. -/
theorem Sequence.step {lead rest : List UInt8} {c : Char} {index : Nat} {text : List Char}
    (sequence : Sequence lead c)
    (ih : ∀ {others}, utf8DecodeFrom index rest = .ok others → utf8Encode others = rest)
    (found : (utf8DecodeFrom index rest).map (c :: ·) = .ok text) :
    utf8Encode text = lead ++ rest := by
  obtain ⟨others, later, rfl⟩ := map_eq_ok_iff.1 found
  rw [utf8Encode_cons, sequence.encoded, ih later]

/-- Bytes that are decoded are the bytes of the text. The induction is that of the decoder: in
each of the four cases that take a character, the tests on the bytes make up its sequence, and
the other cases are errors. -/
theorem utf8Encode_of_decodedFrom {index : Nat} {bytes : List UInt8} {text : List Char}
    (found : utf8DecodeFrom index bytes = .ok text) : utf8Encode text = bytes := by
  fun_induction utf8DecodeFrom index bytes generalizing text with
  | case1 =>
    cases found
    rfl
  | case2 index first rest lead ih =>
    have small : first.toNat < 128 := UInt8.lt_iff_toNat_lt.1 lead
    exact Sequence.step (.one lead (toNat_ofNat (by omega))) ih found
  | case4 index first _ lead second rest continued ih =>
    rw [Bool.and_eq_true_iff, decide_eq_true_iff, decide_eq_true_iff] at lead
    have low : 194 ≤ first.toNat := UInt8.le_iff_toNat_le.1 lead.1
    have high : first.toNat ≤ 223 := UInt8.le_iff_toNat_le.1 lead.2
    have code : first.toNat % 32 * 64 + payload second < 55296 := by unfold payload; omega
    exact Sequence.step (.two lead continued (toNat_ofNat (.inl code))) ih found
  | case11 index first _ _ lead second third rest continued last ih =>
    rw [Bool.and_eq_true_iff, decide_eq_true_iff, decide_eq_true_iff] at lead
    rw [Bool.not_eq_true', Bool.not_eq_false] at continued last
    have low : 224 ≤ first.toNat := UInt8.le_iff_toNat_le.1 lead.1
    have high : first.toNat ≤ 239 := UInt8.le_iff_toNat_le.1 lead.2
    have surrogate := isSecond_iff.1 continued
    exact Sequence.step (.three lead ⟨continued, last⟩
      (toNat_ofNat (by unfold payload; omega))) ih found
  | case21 index first _ _ _ lead second third fourth rest continued next last ih =>
    rw [Bool.and_eq_true_iff, decide_eq_true_iff, decide_eq_true_iff] at lead
    rw [Bool.not_eq_true', Bool.not_eq_false] at continued next last
    have low : 240 ≤ first.toNat := UInt8.le_iff_toNat_le.1 lead.1
    have high : first.toNat ≤ 244 := UInt8.le_iff_toNat_le.1 lead.2
    have range := isSecond_iff.1 continued
    exact Sequence.step (.four lead ⟨continued, next, last⟩
      (toNat_ofNat (by unfold payload; omega))) ih found
  | _ => cases found

/-- **Bytes are decoded to a text if and only if they are its encoding.** -/
theorem utf8Decode_eq_ok_iff {bytes : List UInt8} {text : List Char} :
    utf8Decode bytes = .ok text ↔ utf8Encode text = bytes := by
  constructor
  · exact utf8Encode_of_decodedFrom
  · rintro rfl
    exact utf8DecodeFrom_encode 0 text

/-- Texts with the same bytes are the same. -/
theorem utf8Encode_injective {text other : List Char} (same : utf8Encode text = utf8Encode other) :
    text = other :=
  Except.ok.inj ((utf8Decode_eq_ok_iff.2 same).symm.trans (utf8Decode_eq_ok_iff.2 rfl))

/-! ## Order -/

/-- Of two sequences, that of the smaller code point comes first, whatever follows them. A longer
sequence has a greater leading byte, and in sequences of the same length the bits of the code points
stand in their order. -/
theorem Sequence.lt {bytes others : List UInt8} {c d : Char} (one : Sequence bytes c)
    (other : Sequence others d) (below : c.toNat < d.toNat) (rest more : List UInt8) :
    bytes ++ rest < others ++ more := by
  -- For each pair of lengths, the bytes are numbers in known ranges.
  cases one <;> cases other <;>
    simp only [isSecond_iff, isContinuation_iff, UInt8.lt_iff_toNat_lt, UInt8.le_iff_toNat_le,
      payload, UInt8.reduceToNat] at * <;>
    simp only [List.cons_append, List.nil_append, List.cons_lt_cons_iff, UInt8.lt_iff_toNat_lt,
      ← UInt8.toNat_inj] <;>
    omega

/-- **Texts in their order have their bytes in order.** -/
theorem utf8Encode_lt {text other : List Char} (below : text < other) :
    utf8Encode text < utf8Encode other := by
  induction text generalizing other with
  | nil =>
    cases other with
    | nil => exact absurd below (List.lt_irrefl [])
    | cons d other =>
      have sequence := Sequence.of_char d
      rw [utf8Encode_cons]
      generalize String.utf8EncodeChar d = bytes at sequence ⊢
      cases sequence <;> exact List.nil_lt_cons _ _
  | cons c text ih =>
    cases other with
    | nil => exact absurd below (List.not_lt_nil _)
    | cons d other =>
      rw [utf8Encode_cons, utf8Encode_cons]
      rcases List.cons_lt_cons_iff.1 below with smaller | ⟨rfl, later⟩
      · exact (Sequence.of_char c).lt (Sequence.of_char d) smaller _ _
      · exact List.append_left_lt (ih later)

end CloudTemplate.Text
