import CloudTemplate.Registry
import CloudTemplate.Proofs.Base64.Encoding
import CloudTemplate.Proofs.Outcome
import CloudTemplate.Proofs.Utf8

/-!
# Encoding and decoding texts

The decoder accepts the canonical encodings of texts and nothing else. Bytes are decoded from a
text if and only if the text is what the encoder writes for them (`decode_eq_ok_iff`). In one
direction the symbols of the encoder have their six bits, and the bits of a group of bytes are put
together as they were cut; in the other, the tests on the last group, which are that its padding is
complete and that the bits which no byte needs are zero, are what makes the groups of symbols those
of the bytes that come out. With the decoding of UTF-8, which is exact in the same way, the two
functions on texts are inverse (`decodeText_eq_ok_iff`).

So are the two functions of the template language (`Strings.base64_inverse`), and what is no
encoding of a text is refused.
-/

set_option autoImplicit false

namespace CloudTemplate

namespace Base64

open Text

/-! ## Symbols as bytes -/

/-- The byte of the symbol of six bits. -/
def code (group : Nat) : UInt8 :=
  UInt8.ofNat (symbol group).toNat

/-- The symbol of six bits has these bits. -/
theorem value?_code {group : Nat} (small : group < 64) : value? (code group) = some group := by
  have all : ∀ group < 64, value? (code group) = some group := by decide +kernel
  exact all group small

theorem code_ne_padding {group : Nat} (small : group < 64) : code group ≠ padding := by
  have all : ∀ group < 64, code group ≠ padding := by decide +kernel
  exact all group small

/-- A byte that has six bits is their symbol. -/
theorem code_of_value? {byte : UInt8} {group : Nat} (found : value? byte = some group) :
    group < 64 ∧ code group = byte := by
  have all : ∀ n < 256, (value? (UInt8.ofNat n)).all fun group =>
      decide (group < 64) && code group == UInt8.ofNat n := by decide +kernel
  have here := all byte.toNat byte.toNat_lt
  rw [UInt8.ofNat_toNat, found] at here
  simpa using here

/-- Symbols take one byte. -/
theorem utf8EncodeChar_symbol (group : Nat) :
    String.utf8EncodeChar (symbol group) = [code group] := by
  have all : ∀ group < 64, String.utf8EncodeChar (symbol group) = [code group] := by
    decide +kernel
  have same : symbol (group % 64) = symbol group := symbol_congr (Nat.mod_mod group 64)
  simpa only [code, same] using all (group % 64) (Nat.mod_lt group (by decide))

/-- The canonical encoding as bytes. -/
def written (bytes : List UInt8) : List UInt8 :=
  (groupsOf bytes).map code ++ List.replicate (padsOf bytes) padding

theorem utf8Encode_encode (bytes : List UInt8) : utf8Encode (encode bytes) = written bytes := by
  have symbols : ∀ groups : List Nat, utf8Encode (groups.map symbol) = groups.map code := by
    intro groups
    induction groups with
    | nil => rfl
    | cons group groups ih =>
      rw [List.map_cons, utf8Encode_cons, utf8EncodeChar_symbol, ih]
      rfl
  have pads : ∀ n, utf8Encode (List.replicate n '=') = List.replicate n padding := by
    intro n
    induction n with
    | zero => rfl
    | succ n ih =>
      rw [List.replicate_succ, utf8Encode_cons, ih]
      rfl
  rw [encode_eq, utf8Encode_append, symbols, pads, written]

/-! ## The last group -/

theorem bitsAt_eq_ok_iff {offset : Nat} {byte : UInt8} {group : Nat} :
    bitsAt offset byte = .ok group ↔ group < 64 ∧ code group = byte := by
  unfold bitsAt
  constructor
  · intro found
    split at found
    · next bits value =>
      cases found
      exact code_of_value? value
    · cases found
  · rintro ⟨small, rfl⟩
    rw [value?_code small]

/-- Padding may follow two symbols, and has no bits. -/
theorem lastSymbols_padding (start : Nat) {place : Nat} (late : 2 ≤ place) (firstPad : Option Nat)
    (pads : Nat) : lastSymbols start place firstPad (List.replicate pads padding) = .ok [] := by
  have early : ¬place < 2 := Nat.not_lt.2 late
  induction pads generalizing place firstPad with
  | zero => rfl
  | succ pads ih =>
    have rest := fun first => ih (show 2 ≤ place + 1 by omega) first (by omega)
    cases firstPad <;> simp [List.replicate_succ, lastSymbols, early, rest]

/-- The symbols of groups, with padding after them, are read as the groups. -/
theorem lastSymbols_written (start : Nat) {place : Nat} {groups : List Nat} {pads : Nat}
    (small : ∀ group ∈ groups, group < 64) (late : pads ≠ 0 → 2 ≤ place + groups.length) :
    lastSymbols start place none (groups.map code ++ List.replicate pads padding) =
      .ok groups := by
  induction groups generalizing place with
  | nil =>
    cases pads with
    | zero => rfl
    | succ pads => exact lastSymbols_padding start (late (by omega)) none (pads + 1)
  | cons group groups ih =>
    rw [List.forall_mem_cons] at small
    rw [List.length_cons] at late
    rw [List.map_cons, List.cons_append, lastSymbols, if_neg (code_ne_padding small.1),
      bitsAt_eq_ok_iff.2 ⟨small.1, rfl⟩, ih small.2 (by omega)]
    rfl

/-- What is read as groups consists of their symbols, with padding after them and nowhere else. -/
theorem written_of_lastSymbols {start place : Nat} {firstPad : Option Nat} {group : List UInt8}
    {groups : List Nat} (found : lastSymbols start place firstPad group = .ok groups) :
    (∃ pads, group = groups.map code ++ List.replicate pads padding) ∧
      (∀ one ∈ groups, one < 64) ∧ (firstPad.isSome = true → groups = []) := by
  fun_induction lastSymbols start place firstPad group generalizing groups with
  | case1 place firstPad =>
    cases found
    exact ⟨⟨0, rfl⟩, nofun, fun _ => rfl⟩
  | case2 => cases found
  | case3 place firstPad rest late ih =>
    obtain ⟨⟨pads, rfl⟩, small, none⟩ := ih found
    obtain rfl := none (by cases firstPad <;> rfl)
    exact ⟨⟨pads + 1, rfl⟩, small, fun _ => rfl⟩
  | case4 => cases found
  | case5 place byte rest other ih =>
    obtain ⟨one, here, later⟩ := bind_eq_ok_iff.1 found
    obtain ⟨others, next, same⟩ := bind_eq_ok_iff.1 later
    cases same
    obtain ⟨below, rfl⟩ := bitsAt_eq_ok_iff.1 here
    obtain ⟨⟨pads, rfl⟩, small, _⟩ := ih next
    exact ⟨⟨pads, rfl⟩, List.forall_mem_cons.2 ⟨below, small⟩, nofun⟩

/-- The last group is decoded. -/
theorem decodeLast_written (start : Nat) {bytes : List UInt8} (nonempty : bytes ≠ [])
    (short : bytes.length ≤ 3) : decodeLast start (written bytes) = .ok bytes := by
  have spells := spells_groupsOf bytes
  have symbols : lastSymbols start 0 none (written bytes) = .ok (groupsOf bytes) := by
    refine lastSymbols_written start spells.small fun padded => ?_
    have whole := spells.whole
    have few := spells.few
    omega
  unfold decodeLast
  rw [symbols]
  match bytes with
  | [a] =>
    dsimp only [bind, Except.bind, groupsOf]
    rw [if_neg (show ¬(written [a]).length ≠ 4 from not_not_intro rfl), if_neg (by omega),
      ofNat_eq a (by omega)]
  | [a, b] =>
    have bound := b.toNat_lt
    dsimp only [bind, Except.bind, groupsOf]
    rw [if_neg (show ¬(written [a, b]).length ≠ 4 from not_not_intro rfl), if_neg (by omega),
      ofNat_eq a (by omega), ofNat_eq b (by omega)]
  | [a, b, c] =>
    have bound := b.toNat_lt
    have bound' := c.toNat_lt
    dsimp only [bind, Except.bind, groupsOf]
    rw [ofNat_eq a (by omega), ofNat_eq b (by omega), ofNat_eq c (by omega)]

/-! ## Bytes of groups -/

/-- Two groups whose last four bits are zero are those of one byte. -/
theorem written_one {p q : Nat} (small : p < 64 ∧ q < 64) (zero : q % 16 = 0) :
    written [UInt8.ofNat (p * 4 + q / 16)] = [code p, code q, padding, padding] := by
  have value : (UInt8.ofNat (p * 4 + q / 16)).toNat = p * 4 + q / 16 :=
    UInt8.toNat_ofNat_of_lt' (show _ < 256 by omega)
  have first : (p * 4 + q / 16) / 4 = p := by omega
  have second : (p * 4 + q / 16) % 4 * 16 = q := by omega
  rw [written, groupsOf, value, first, second]
  rfl

/-- Three groups whose last two bits are zero are those of two bytes. -/
theorem written_two {p q r : Nat} (small : p < 64 ∧ q < 64 ∧ r < 64) (zero : r % 4 = 0) :
    written [UInt8.ofNat (p * 4 + q / 16), UInt8.ofNat (q % 16 * 16 + r / 4)] =
      [code p, code q, code r, padding] := by
  have value : (UInt8.ofNat (p * 4 + q / 16)).toNat = p * 4 + q / 16 :=
    UInt8.toNat_ofNat_of_lt' (show _ < 256 by omega)
  have value' : (UInt8.ofNat (q % 16 * 16 + r / 4)).toNat = q % 16 * 16 + r / 4 :=
    UInt8.toNat_ofNat_of_lt' (show _ < 256 by omega)
  have first : (p * 4 + q / 16) / 4 = p := by omega
  have second : (p * 4 + q / 16) % 4 * 16 + (q % 16 * 16 + r / 4) / 16 = q := by omega
  have third : (q % 16 * 16 + r / 4) % 16 * 4 = r := by omega
  rw [written, groupsOf, value, value', first, second, third]
  rfl

/-- Four groups are those of three bytes. -/
theorem written_three {p q r s : Nat} (small : p < 64 ∧ q < 64 ∧ r < 64 ∧ s < 64)
    (rest : List UInt8) :
    written (UInt8.ofNat (p * 4 + q / 16) :: UInt8.ofNat (q % 16 * 16 + r / 4) ::
        UInt8.ofNat (r % 4 * 64 + s) :: rest) =
      code p :: code q :: code r :: code s :: written rest := by
  have value : (UInt8.ofNat (p * 4 + q / 16)).toNat = p * 4 + q / 16 :=
    UInt8.toNat_ofNat_of_lt' (show _ < 256 by omega)
  have value' : (UInt8.ofNat (q % 16 * 16 + r / 4)).toNat = q % 16 * 16 + r / 4 :=
    UInt8.toNat_ofNat_of_lt' (show _ < 256 by omega)
  have value'' : (UInt8.ofNat (r % 4 * 64 + s)).toNat = r % 4 * 64 + s :=
    UInt8.toNat_ofNat_of_lt' (show _ < 256 by omega)
  have first : (p * 4 + q / 16) / 4 = p := by omega
  have second : (p * 4 + q / 16) % 4 * 16 + (q % 16 * 16 + r / 4) / 16 = q := by omega
  have third : (q % 16 * 16 + r / 4) % 16 * 4 + (r % 4 * 64 + s) / 64 = r := by omega
  have fourth : (r % 4 * 64 + s) % 64 = s := by omega
  rw [written, groupsOf, value, value', value'', first, second, third, fourth]
  rfl

/-- What passed a test did not fail it. -/
theorem of_unless_eq_ok {α : Type} {fails : Prop} [Decidable fails] {fault : Fault}
    {next : Except Fault α} {result : α}
    (found : (if fails then .error fault else next) = .ok result) :
    ¬fails ∧ next = .ok result := by
  split at found
  · cases found
  · next succeeds => exact ⟨succeeds, found⟩

/-- The tests on the last group make it the encoding of the bytes that come out. -/
theorem eq_written_of_decodeLast {start : Nat} {group bytes : List UInt8}
    (short : group.length ≤ 4) (found : decodeLast start group = .ok bytes) :
    group = written bytes := by
  obtain ⟨groups, symbols, result⟩ := bind_eq_ok_iff.1 found
  obtain ⟨⟨pads, rfl⟩, small, -⟩ := written_of_lastSymbols symbols
  rw [List.length_append, List.length_map, List.length_replicate] at short
  dsimp only at result
  split at result
  · next p q =>
    obtain ⟨full, result⟩ := of_unless_eq_ok result
    obtain ⟨zero, result⟩ := of_unless_eq_ok result
    cases result
    rw [List.forall_mem_cons, List.forall_mem_singleton] at small
    obtain rfl : pads = 2 := by simp at full; omega
    rw [written_one small (Decidable.not_not.1 zero)]
    rfl
  · next p q r =>
    obtain ⟨full, result⟩ := of_unless_eq_ok result
    obtain ⟨zero, result⟩ := of_unless_eq_ok result
    cases result
    rw [List.forall_mem_cons, List.forall_mem_cons, List.forall_mem_singleton] at small
    obtain rfl : pads = 1 := by simp at full; omega
    rw [written_two small (Decidable.not_not.1 zero)]
    rfl
  · next p q r s =>
    cases result
    rw [List.forall_mem_cons, List.forall_mem_cons, List.forall_mem_cons,
      List.forall_mem_singleton] at small
    obtain rfl : pads = 0 := by simp at short; omega
    rw [written_three small]
    rfl
  · cases result

/-! ## The decoder -/

theorem exists_written_cons (byte : UInt8) (rest : List UInt8) :
    ∃ first others, written (byte :: rest) = first :: others := by
  match rest with
  | [] | [_] | _ :: _ :: _ => exact ⟨_, _, rfl⟩

/-- The decoder takes apart what the encoder puts together. -/
theorem decodeFrom_written (start : Nat) {bytes : List UInt8} (nonempty : bytes ≠ []) :
    decodeFrom start (written bytes) = .ok bytes := by
  fun_induction groupsOf bytes generalizing start with
  | case1 => exact absurd rfl nonempty
  | case2 a => exact decodeLast_written start nonempty (Nat.le_add_left 1 2)
  | case3 a b => exact decodeLast_written start nonempty (Nat.le_succ 2)
  | case4 a b c rest ih =>
    have bound := a.toNat_lt
    have bound' := b.toNat_lt
    have bound'' := c.toNat_lt
    cases rest with
    | nil => exact decodeLast_written start nonempty (Nat.le_refl 3)
    | cons d rest =>
      have step : written (a :: b :: c :: d :: rest) =
          code (a.toNat / 4) :: code (a.toNat % 4 * 16 + b.toNat / 16) ::
            code (b.toNat % 16 * 4 + c.toNat / 64) :: code (c.toNat % 64) ::
              written (d :: rest) := rfl
      obtain ⟨e, others, same⟩ := exists_written_cons d rest
      rw [step, same, decodeFrom, ← same, bitsAt_eq_ok_iff.2 ⟨by omega, rfl⟩,
        bitsAt_eq_ok_iff.2 ⟨by omega, rfl⟩, bitsAt_eq_ok_iff.2 ⟨by omega, rfl⟩,
        bitsAt_eq_ok_iff.2 ⟨by omega, rfl⟩, ih (start + 4) (List.cons_ne_nil d rest)]
      dsimp only [bind, Except.bind]
      rw [ofNat_eq a (by omega), ofNat_eq b (by omega), ofNat_eq c (by omega)]

/-- What the decoder accepts is the canonical encoding of the bytes that come out. -/
theorem eq_written_of_decodeFrom {start : Nat} {text bytes : List UInt8}
    (found : decodeFrom start text = .ok bytes) : text = written bytes := by
  fun_induction decodeFrom start text generalizing bytes with
  | case1 start a b c d e rest ih =>
    obtain ⟨p, first, found⟩ := bind_eq_ok_iff.1 found
    obtain ⟨q, second, found⟩ := bind_eq_ok_iff.1 found
    obtain ⟨r, third, found⟩ := bind_eq_ok_iff.1 found
    obtain ⟨s, fourth, found⟩ := bind_eq_ok_iff.1 found
    obtain ⟨others, later, same⟩ := bind_eq_ok_iff.1 found
    cases same
    obtain ⟨smallFirst, rfl⟩ := bitsAt_eq_ok_iff.1 first
    obtain ⟨smallSecond, rfl⟩ := bitsAt_eq_ok_iff.1 second
    obtain ⟨smallThird, rfl⟩ := bitsAt_eq_ok_iff.1 third
    obtain ⟨smallFourth, rfl⟩ := bitsAt_eq_ok_iff.1 fourth
    rw [written_three ⟨smallFirst, smallSecond, smallThird, smallFourth⟩, ← ih later]
  | case2 start group last =>
    refine eq_written_of_decodeLast ?_ found
    match group with
    | [] | [_] | [_, _] | [_, _, _] | [_, _, _, _] => simp
    | a :: b :: c :: d :: e :: rest => exact absurd rfl (last a b c d e rest)

/-- **Bytes are decoded from a text if and only if it is their canonical encoding.** -/
theorem decode_eq_ok_iff {text bytes : List UInt8} :
    decode text = .ok bytes ↔ text = utf8Encode (encode bytes) := by
  rw [utf8Encode_encode]
  constructor
  · intro found
    obtain ⟨_, _, found⟩ := bind_eq_ok_iff.1 found
    cases text with
    | nil =>
      cases found
      rfl
    | cons first rest => exact eq_written_of_decodeFrom found
  · rintro rfl
    have whole : (written bytes).length % 4 = 0 := by
      rw [written, List.length_append, List.length_map, List.length_replicate]
      exact Nat.mod_eq_zero_of_dvd (spells_groupsOf bytes).whole
    have surplus : checkSurplus (written bytes) = .ok () := by
      unfold checkSurplus
      split
      · rw [if_neg (by omega)]
      · rfl
    cases bytes with
    | nil => rfl
    | cons byte rest =>
      obtain ⟨first, others, same⟩ := exists_written_cons byte rest
      unfold decode
      rw [surplus, same]
      dsimp only [bind, Except.bind]
      rw [← same]
      exact decodeFrom_written 0 (List.cons_ne_nil byte rest)

/-- A text is decoded if and only if it is the encoding of what comes out. -/
theorem decodeText_eq_ok_iff {encoded text : String} :
    decodeText encoded = .ok text ↔ encodeText text = encoded := by
  constructor
  · intro found
    obtain ⟨bytes, decoded, found⟩ := bind_eq_ok_iff.1 found
    rw [decode_eq_ok_iff] at decoded
    have canonical := utf8Encode_injective decoded
    split at found
    · next chars read =>
      cases found
      rw [encodeText, String.toList_ofList, utf8Decode_eq_ok_iff.1 read, ← canonical,
        String.ofList_toList]
    · cases found
  · rintro rfl
    have decoded : decode (utf8Encode (encodeText text).toList) =
        .ok (utf8Encode text.toList) := by
      rw [decode_eq_ok_iff, encodeText, String.toList_ofList]
    have read : utf8Decode (utf8Encode text.toList) = .ok text.toList := utf8Decode_eq_ok_iff.2 rfl
    simp only [decodeText, decoded, bind, Except.bind, read, String.ofList_toList]

/-- What a text is encoded as is the canonical encoding of its bytes, and nothing else is. -/
theorem encodes_utf8Encode_iff {text encoding : String} :
    Encodes (utf8Encode text.toList) encoding.toList ↔ encodeText text = encoding := by
  rw [encodes_iff, encodeText, ← String.toList_inj, String.toList_ofList]

end Base64

namespace Strings

open Base64 Text

variable {answer : Value → Except Error Value}

theorem outcome_base64Encode (call : Invocation) {value : Value}
    (resolved : answer call.arguments = .ok value) (plain : call.containsCall value = false) :
    (base64Encode call).outcome answer = .ok (.string (encodeText value.text)) := by
  change (answer call.arguments >>= fun value =>
    (call.unlessCall value (pure (.string (encodeText value.text)))).outcome answer) = _
  rw [resolved]
  change (call.unlessCall value (pure (.string (encodeText value.text)))).outcome answer = _
  rw [Invocation.unlessCall, plain]
  rfl

theorem outcome_base64Decode (call : Invocation) {encoding : String}
    (resolved : answer call.arguments = .ok (.string encoding)) :
    (base64Decode call).outcome answer =
      match decodeText encoding with
      | .ok text => .ok (.string text)
      | .error fault => .error (.invalidBase64 call.key fault) := by
  refine (call.outcome_known resolved rfl _).trans ?_
  change (match decodeText encoding with
    | .ok text => pure (.string text)
    | .error fault => .fail (.invalidBase64 call.key fault) : Program Value).outcome answer = _
  cases decodeText encoding <;> rfl

/-- **Encoding and decoding are inverse.** A value without calls is encoded as the one canonical
encoding of its text, and whoever decodes that gets the text. An encoding is either that of a text,
which is what it is decoded to and whose encoding it is again, or there is no text that it encodes,
and it is refused. -/
theorem base64_inverse (call : Invocation) (answer : Value → Except Error Value) :
    (∀ value, answer call.arguments = .ok value → call.containsCall value = false →
      ∃ encoding, Encodes (utf8Encode value.text.toList) encoding.toList ∧
        (base64Encode call).outcome answer = .ok (.string encoding) ∧
        ∀ (outer : Invocation) (later : Value → Except Error Value),
          later outer.arguments = .ok (.string encoding) →
            (base64Decode outer).outcome later = .ok (.string value.text)) ∧
    ∀ encoding, answer call.arguments = .ok (.string encoding) →
      (∃ text, Encodes (utf8Encode text.toList) encoding.toList ∧
        (base64Decode call).outcome answer = .ok (.string text) ∧
        ∀ (outer : Invocation) (later : Value → Except Error Value),
          later outer.arguments = .ok (.string text) →
            (base64Encode outer).outcome later = .ok (.string encoding)) ∨
      (∀ text : String, ¬Encodes (utf8Encode text.toList) encoding.toList) ∧
        ∃ fault, (base64Decode call).outcome answer = .error (.invalidBase64 call.key fault) := by
  constructor
  · intro value resolved plain
    refine ⟨encodeText value.text, encodes_utf8Encode_iff.2 rfl,
      outcome_base64Encode call resolved plain, fun outer later received => ?_⟩
    rw [outcome_base64Decode outer received, decodeText_eq_ok_iff.2 rfl]
  · intro encoding resolved
    rw [outcome_base64Decode call resolved]
    cases decoded : decodeText encoding with
    | ok text =>
      have encoded := decodeText_eq_ok_iff.1 decoded
      refine .inl ⟨text, encodes_utf8Encode_iff.2 encoded, rfl, fun outer later received => ?_⟩
      rw [outcome_base64Encode outer received rfl, ← encoded]
      rfl
    | error fault =>
      refine .inr ⟨fun text encodes => ?_, fault, rfl⟩
      rw [decodeText_eq_ok_iff.2 (encodes_utf8Encode_iff.1 encodes)] at decoded
      cases decoded

/-- The scope of a template with one parameter, whose text has two bytes. -/
def letterScope : Scope :=
  ⟨Config.standard, [("Letter", .string "ß")], .null⟩

/-- The encoding of the parameter. -/
def encodedLetter : Invocation :=
  ⟨"Fn::Base64Encode", "Base64Encode", .ofCall "Ref" (.string "Letter"), letterScope⟩

/-- The decoding of an argument. -/
def decodingOf (argument : Value) : Invocation :=
  ⟨"Fn::Base64Decode", "Base64Decode", argument, letterScope⟩

/-- One call inside the other gives the parameter. An encoding with a bit too many is refused. -/
theorem base64_inverse_letter :
    let answer := Resolver.outcome Registry.standard letterScope
    answer 1 encodedLetter.arguments = .ok (.string "ß") ∧
      encodedLetter.containsCall (.string "ß") = false ∧
      (base64Encode encodedLetter).outcome (answer 1) = .ok (.string "w58=") ∧
      answer 2 encodedLetter.node = .ok (.string "w58=") ∧
      (base64Decode (decodingOf encodedLetter.node)).outcome (answer 2) = .ok (.string "ß") ∧
      answer 1 (.string "w59=") = .ok (.string "w59=") ∧
      ∃ fault, (base64Decode (decodingOf (.string "w59="))).outcome (answer 1) =
        .error (.invalidBase64 "Fn::Base64Decode" fault) := by
  intro answer
  have letter : answer 1 encodedLetter.arguments = .ok (.string "ß") := rfl
  have plain : encodedLetter.containsCall (.string "ß") = false := rfl
  obtain ⟨encoding, encodes, encoded, back⟩ :=
    (base64_inverse encodedLetter (answer 1)).1 _ letter plain
  obtain rfl : "w58=" = encoding := by
    rw [← String.toList_inj, ← encodes_iff.1 encodes]
    decide +kernel
  have inner : answer 2 encodedLetter.node = .ok (.string "w58=") := encoded
  have surplus : answer 1 (.string "w59=") = .ok (.string "w59=") := rfl
  refine ⟨letter, plain, encoded, inner, back (decodingOf encodedLetter.node) (answer 2) inner,
    surplus, ?_⟩
  rcases (base64_inverse (decodingOf (.string "w59=")) (answer 1)).2 _ surplus with
    ⟨text, encodes, found, _⟩ | ⟨_, refused⟩
  · rw [outcome_base64Decode _ surplus] at found
    have fault : decodeText "w59=" = .error (.invalidLastSymbol 57 2) := rfl
    rw [fault] at found
    cases found
  · exact refused

end Strings

end CloudTemplate
