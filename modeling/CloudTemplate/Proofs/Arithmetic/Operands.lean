import CloudTemplate.Proofs.Arithmetic.Reading

/-!
# Operands, signs and powers

The readers of the three inner levels follow the grammar: that of operands where the reader of sums
does in all shorter texts (`operand_reads`), that of signs where the reader of operands does
(`signed_reads`), and that of powers where the reader of signed operands does (`power_reads`). Each
of them has a lemma for every form that a text can start with, which says what the reader does
there, and one for every form of result, which says what it makes of a text in front of which a
token is put. Signs and powers call themselves with less fuel, on a text that is shorter by a token.
-/

set_option autoImplicit false

namespace CloudTemplate.Arithmetic

/-! ## Operands -/

theorem literal_eq_ok {text : List Char} {x : Float}
    (reads : Decimal.unsigned? (text.takeWhile isPart) = some x) :
    literal text = .ok (x, text.dropWhile isPart) := by
  change Decimal.unsigned? (text.takeWhile fun c => Decimal.isDigit c || c == '.') = _ at reads
  unfold literal
  dsimp only
  rw [reads]
  rfl

theorem literal_eq_error {text : List Char}
    (unread : Decimal.unsigned? (text.takeWhile isPart) = none) :
    literal text = .error (.invalidNumber (String.ofList (text.takeWhile isPart)) text) := by
  change Decimal.unsigned? (text.takeWhile fun c => Decimal.isDigit c || c == '.') = _ at unread
  unfold literal
  dsimp only
  rw [unread]
  rfl

/-- A number is read up to what separates it from the rest. -/
theorem literal_append (number : Literal) {rest : List Char}
    (separate : Separate number.digits rest) :
    literal (number.digits ++ rest) = .ok (number.value, rest) := by
  obtain ⟨c, last, ends⟩ : ∃ c, number.digits.getLast? = some c ∧ isPart c = true := by
    obtain ⟨d, more, digits, -⟩ := number.exists_cons
    have nonempty : number.digits ≠ [] := digits ▸ List.cons_ne_nil d more
    exact ⟨_, List.getLast?_eq_some_getLast nonempty, number.parts _ (List.getLast_mem nonempty)⟩
  have stops : ∀ d ∈ rest.head?, isPart d = false := separate c last ends
  have digits : (number.digits ++ rest).takeWhile isPart = number.digits :=
    Text.takeWhile_append_of_stops number.parts stops
  have others : (number.digits ++ rest).dropWhile isPart = rest :=
    Text.dropWhile_append_of_stops number.parts stops
  rw [literal_eq_ok (digits ▸ number.reads), others]

/-- Digits and points in front of a text are read as a number, or they are none. -/
theorem literal_explained {text : List Char} {blanks : List Char} (blank : Text.Blank blanks)
    {c : Char} (first : text.head? = some c) (part : isPart c = true) :
    Explained .operand (blanks ++ text) (literal text) := by
  cases reads : Decimal.unsigned? (text.takeWhile isPart) with
  | none =>
    rw [literal_eq_error reads]
    exact .malformed (.number blank first part reads)
  | some x =>
    rw [literal_eq_ok reads]
    have split : blanks ++ text =
        blanks ++ (text.takeWhile isPart ++ []) ++ text.dropWhile isPart := by
      rw [List.append_nil, List.append_assoc, List.takeWhile_append_dropWhile]
    have separate : Separate (blanks ++ (text.takeWhile isPart ++ [])) (text.dropWhile isPart) :=
      fun _ _ _ => Text.head_dropWhile isPart text
    exact .read (.number ⟨_, List.all_eq_true.1 List.all_takeWhile, x, reads⟩) split
      (.cons blank .nil) separate (fun _ listed => nomatch listed)

/-- What stands in front of an opening parenthesis, and the text in the parentheses. -/
theorem operand_parenthesis (inner : Reader) {blanks : List Char}
    (blank : Text.Blank blanks) (text : List Char) :
    operand inner (blanks ++ '(' :: text) =
      inner text >>= fun (x, rest) =>
        match Text.trimStart rest with
        | ')' :: rest => .ok (x, rest)
        | rest => .error (.missingParenthesis rest) := by
  unfold operand
  rw [Text.trimStart_append blank, Text.trimStart_cons text (by decide)]
  rfl

theorem operand_number (inner : Reader) {blanks : List Char}
    (blank : Text.Blank blanks) {c : Char} (part : isPart c = true)
    (text : List Char) : operand inner (blanks ++ c :: text) = literal (c :: text) := by
  unfold operand
  rw [Text.trimStart_append blank, Text.trimStart_cons text (isBlank_eq_false_of_isPart part)]
  dsimp only
  split
  · next same => cases same
  · next same =>
    cases same
    exact absurd part (by decide)
  · next same =>
    cases same
    exact if_pos part

theorem operand_ended (inner : Reader) {blanks : List Char} (blank : Text.Blank blanks) :
    operand inner blanks = .error .unexpectedEnd := by
  have trimmed := Text.trimStart_append blank []
  rw [List.append_nil] at trimmed
  unfold operand
  rw [trimmed]
  rfl

/-- A character that starts neither a parenthesis nor a number cannot start an operand. -/
theorem operand_character (inner : Reader) {blanks : List Char} (blank : Text.Blank blanks)
    {c : Char} (visible : Text.isBlank c = false) (parenthesis : c ≠ '(') (part : isPart c = false)
    (rest : List Char) :
    operand inner (blanks ++ c :: rest) = .error (.unexpectedCharacter c (c :: rest)) := by
  unfold operand
  rw [Text.trimStart_append blank, Text.trimStart_cons rest visible]
  dsimp only
  split
  · next same => cases same
  · next same =>
    cases same
    exact absurd rfl parenthesis
  · next same =>
    cases same
    exact if_neg (Bool.eq_false_iff.1 part)

/-- A sum ends before a closing parenthesis. -/
theorem ends_parenthesis {blanks : List Char} (blank : Text.Blank blanks)
    (text rest : List Char) : (Level.chain .sum).Ends text (blanks ++ ')' :: rest) := by
  have trimmed : Text.trimStart (blanks ++ ')' :: rest) = ')' :: rest := by
    rw [Text.trimStart_append blank, Text.trimStart_cons rest (by decide)]
  refine ⟨⟨⟨separate_blanks blank (by decide), ?_⟩, ?_⟩, ?_⟩ <;> rw [trimmed] <;> rfl

/-- A text that starts with a token of one character, after blanks. -/
theorem append_token {blanks front rest : List Char} {c : Char} :
    blanks ++ ([c] ++ front) ++ rest = blanks ++ c :: (front ++ rest) :=
  List.append_assoc blanks ([c] ++ front) rest

theorem Separate.append_token {text rest : List Char} (separate : Separate text rest)
    (nonempty : text ≠ []) {blanks : List Char} {c : Char} :
    Separate (blanks ++ ([c] ++ text)) rest := by
  simpa only [List.append_assoc] using separate.append nonempty (blanks ++ [c])

theorem Ended.append_token {text rest : List Char} (ended : Ended text rest)
    (nonempty : text ≠ []) {blanks : List Char} {c : Char} :
    Ended (blanks ++ ([c] ++ text)) rest :=
  ⟨ended.separate.append_token nonempty, ended.no_exponent⟩

/-- The text after a character is shorter. -/
theorem length_lt_of_eq_append_cons {text front rest : List Char} {c : Char}
    (split : text = front ++ c :: rest) : rest.length < text.length := by
  rw [split, List.length_append, List.length_cons]
  omega

/-- A parenthesis is explained by what stands in it and by the character that closes it. -/
theorem parenthesis_explained {blanks rest : List Char}
    (blank : Text.Blank blanks)
    {inside : Except (Fault (List Char)) (Float × List Char)}
    (explained : Explained (.chain .sum) rest inside) :
    Explained .operand (blanks ++ '(' :: rest) (inside >>= fun (x, rest) =>
      match Text.trimStart rest with
      | ')' :: rest => .ok (x, rest)
      | rest => .error (.missingParenthesis rest)) := by
  cases explained with
  | malformed breaks => exact .malformed (.parenthesis blank breaks)
  | stopped stops split spaced ended =>
    subst split
    exact .stopped (.parenthesis stops) append_token.symm (.cons blank spaced)
      (ended.append_token (stops.leads.ne_nil spaced))
  | @read sum front rest split written ends defined =>
    subst split
    dsimp only [bind, Except.bind]
    split
    · next closed trimmed =>
      rw [Level.trimStart_left] at trimmed
      obtain ⟨others, also, same⟩ := Text.exists_blanks rest
      rw [trimmed] at same
      refine .read sum.parenthesized ?_ (.cons blank (written.append (.cons also .nil))) ?_ defined
      · rw [same]
        simp only [List.append_assoc, List.cons_append, List.nil_append]
      · intro c last part
        simp only [List.getLast?_append, List.append_nil, List.getLast?_singleton,
          Option.some_or, Option.mem_def] at last
        cases last
        cases part
    · next others unclosed =>
      rw [Level.trimStart_left] at unclosed ⊢
      refine .malformed (.unclosed blank written defined ends fun closed => ?_)
      obtain ⟨more, closed⟩ := List.head?_eq_some_iff.1 closed
      exact unclosed more closed

section Operand

variable {inner : Reader} {text : List Char}
  (inside : ∀ rest : List Char, rest.length < text.length → ReadsAt (.chain .sum) inner rest)
include inside

theorem operand_complete (expression : Expression .operand) {front rest : List Char}
    (split : text = front ++ rest) (written : expression.WrittenAs front)
    (ends : Separate front rest) :
    operand inner text = (·, rest) <$> expression.result := by
  cases expression with
  | number number =>
    obtain ⟨blanks, more, rfl, blank, others⟩ := Spaced.exists_cons written
    cases others
    obtain ⟨c, digits, same, part⟩ := number.exists_cons
    rw [List.append_nil] at ends
    rw [split, List.append_nil, List.append_assoc, same, List.cons_append,
      operand_number inner blank part, ← List.cons_append, ← same,
      literal_append number ends.of_append]
    rfl
  | parenthesized sum =>
    obtain ⟨blanks, more, rfl, blank, spaced⟩ := Spaced.exists_cons written
    obtain ⟨first, second, rfl, one, other⟩ := spaced.exists_of_append
    obtain ⟨others, nothing, rfl, also, last⟩ := other.exists_cons
    cases last
    rw [append_token, List.append_assoc, append_token, List.nil_append] at split
    rw [split, operand_parenthesis inner blank,
      (inside _ (length_lt_of_eq_append_cons split)).complete sum rfl one
        (ends_parenthesis also first rest)]
    have trimmed : Text.trimStart ((Level.chain .sum).left (others ++ ')' :: rest)) =
        ')' :: rest := by
      rw [Level.trimStart_left, Text.trimStart_append also, Text.trimStart_cons rest (by decide)]
    change _ = (·, rest) <$> sum.result
    cases sum.result with
    | error fault => rfl
    | ok x =>
      dsimp only [Functor.map, Except.map, bind, Except.bind]
      rw [trimmed]
      rfl

theorem operand_stops {tokens : List (List Char)} {met : Division} {front rest : List Char}
    (split : text = front ++ rest) (stops : Stops .operand tokens met)
    (spaced : Spaced tokens front) (ended : Ended front rest) :
    operand inner text = .error met.fault := by
  cases stops with
  | parenthesis stops =>
    obtain ⟨blanks, more, rfl, blank, spaced⟩ := spaced.exists_cons
    rw [append_token] at split
    rw [split, operand_parenthesis inner blank,
      (inside _ (length_lt_of_eq_append_cons split)).stops rfl stops spaced
        ended.of_append.of_append]
    rfl

theorem operand_breaks {fault : Fault (List Char)} (breaks : Breaks .operand text fault) :
    operand inner text = .error fault := by
  cases breaks with
  | ended blank => exact operand_ended inner blank
  | character blank visible parenthesis part rest =>
    exact operand_character inner blank visible parenthesis part rest
  | number blank first part unread =>
    obtain ⟨rest, rfl⟩ := List.head?_eq_some_iff.1 first
    rw [operand_number inner blank part, literal_eq_error unread]
  | @unclosed blanks blank sum front rest written defined ends missing =>
    rw [operand_parenthesis inner blank,
      (inside _ (length_lt_of_eq_append_cons rfl)).complete sum rfl written ends, defined.result_eq]
    dsimp only [Functor.map, Except.map, bind, Except.bind]
    rw [Level.trimStart_left]
    split
    · next closed trimmed =>
      rw [trimmed] at missing
      exact absurd rfl missing
    · rfl
  | parenthesis blank breaks =>
    rw [operand_parenthesis inner blank,
      (inside _ (length_lt_of_eq_append_cons rfl)).breaks breaks]
    rfl

theorem operand_explained : Explained .operand text (operand inner text) := by
  obtain ⟨blanks, blank, split⟩ := Text.exists_blanks text
  cases trimmed : Text.trimStart text with
  | nil =>
    rw [trimmed, List.append_nil] at split
    rw [split, operand_ended inner blank]
    exact .malformed (.ended blank)
  | cons c rest =>
    rw [trimmed] at split
    by_cases part : isPart c = true
    · rw [split, operand_number inner blank part]
      exact literal_explained blank rfl part
    · by_cases parenthesis : c = '('
      · subst parenthesis
        have explained := (inside rest (length_lt_of_eq_append_cons split)).explained
        rw [split, operand_parenthesis inner blank]
        exact parenthesis_explained blank explained
      · have visible := Text.head_trimStart trimmed
        have other := Bool.eq_false_iff.2 part
        rw [split, operand_character inner blank visible parenthesis other]
        exact .malformed (.character blank visible parenthesis other rest)

theorem operand_reads : ReadsAt .operand (operand inner) text where
  complete := operand_complete inside
  stops := operand_stops inside
  breaks := operand_breaks inside
  explained := operand_explained inside

end Operand

/-! ## Signs -/

theorem unsigned_of_ne {blanks : List Char} (blank : Text.Blank blanks) {c : Char}
    (visible : Text.isBlank c = false) (other : ∀ sign : Sign, c ≠ sign.symbol)
    (text : List Char) : Unsigned (blanks ++ c :: text) := by
  intro sign rest trimmed
  rw [Text.trimStart_append blank, Text.trimStart_cons _ visible] at trimmed
  cases trimmed
  exact other sign rfl

theorem Expression.unsigned_of_operand (expression : Expression .operand) {front : List Char}
    (written : expression.WrittenAs front) (rest : List Char) : Unsigned (front ++ rest) := by
  cases expression with
  | number number =>
    obtain ⟨blanks, more, rfl, blank, -⟩ := Spaced.exists_cons written
    obtain ⟨c, digits, same, part⟩ := number.exists_cons
    rw [List.append_assoc, List.append_assoc, same]
    refine unsigned_of_ne blank (isBlank_eq_false_of_isPart part) (fun sign here => ?_) _
    subst here
    cases sign <;> cases part
  | parenthesized sum =>
    obtain ⟨blanks, more, rfl, blank, -⟩ := Spaced.exists_cons written
    rw [append_token]
    exact unsigned_of_ne blank (by decide) (fun sign => by cases sign <;> decide) _

theorem Stops.unsigned_of_operand {tokens : List (List Char)} {met : Division}
    (stops : Stops .operand tokens met) {front : List Char} (spaced : Spaced tokens front)
    (rest : List Char) : Unsigned (front ++ rest) := by
  cases stops with
  | parenthesis =>
    obtain ⟨blanks, more, rfl, blank, -⟩ := spaced.exists_cons
    rw [append_token]
    exact unsigned_of_ne blank (by decide) (fun sign => by cases sign <;> decide) _

theorem signed_sign (operand : Reader) (fuel : Nat) {blanks : List Char}
    (blank : Text.Blank blanks) (sign : Sign) (text : List Char) :
    signed operand (fuel + 1) (blanks ++ sign.symbol :: text) =
      (fun (x, rest) => (sign.value x, rest)) <$> signed operand fuel text := by
  rw [signed, Text.trimStart_append blank, Text.trimStart_cons _ (by cases sign <;> decide)]
  cases sign with
  | plus =>
    change signed operand fuel text = _
    cases signed operand fuel text <;> rfl
  | minus => rfl

theorem signed_of_trimmed (operand : Reader) (fuel : Nat) {sign : Sign} {text rest : List Char}
    (trimmed : Text.trimStart text = sign.symbol :: rest) :
    rest.length < text.length ∧ signed operand (fuel + 1) text =
      (fun (x, rest) => (sign.value x, rest)) <$> signed operand fuel rest := by
  obtain ⟨blanks, blank, split⟩ := Text.exists_blanks text
  rw [trimmed] at split
  refine ⟨length_lt_of_eq_append_cons split, ?_⟩
  rw [split, signed_sign operand fuel blank]

theorem operand_trimStart (inner : Reader) (text : List Char) :
    operand inner (Text.trimStart text) = operand inner text := by
  unfold operand
  rw [Text.trimStart_trimStart]

theorem signed_unsigned (inner : Reader) (fuel : Nat) {text : List Char}
    (unsigned : Unsigned text) : signed (operand inner) (fuel + 1) text = operand inner text := by
  rw [signed]
  split
  · next trimmed => exact absurd trimmed (unsigned .plus _)
  · next trimmed => exact absurd trimmed (unsigned .minus _)
  · exact operand_trimStart inner text

/-- What stands after a sign explains the whole. -/
theorem sign_explained {blanks rest : List Char} (blank : Text.Blank blanks) (sign : Sign)
    {result : Except (Fault (List Char)) (Float × List Char)}
    (explained : Explained .signed rest result) :
    Explained .signed (blanks ++ sign.symbol :: rest)
      ((fun (x, rest) => (sign.value x, rest)) <$> result) := by
  cases explained with
  | malformed breaks => exact .malformed (.signed blank sign breaks)
  | stopped stops split spaced ended =>
    subst split
    exact .stopped (.signed sign stops) append_token.symm (.cons blank spaced)
      (ended.append_token (stops.leads.ne_nil spaced))
  | read operand split written ends defined =>
    subst split
    exact .read (.signed sign operand) append_token.symm (.cons blank written)
      (Separate.append_token ends (operand.leads.ne_nil written)) defined

section Signed

variable {inner : Reader} {bound : Nat}
  (operands : ∀ text : List Char, text.length ≤ bound → ReadsAt .operand (operand inner) text)
include operands

theorem signed_complete (expression : Expression .signed) {fuel : Nat} {text front rest : List Char}
    (enough : text.length < fuel) (bounded : text.length ≤ bound) (split : text = front ++ rest)
    (written : expression.WrittenAs front) (ends : Separate front rest) :
    signed (operand inner) fuel text = (·, rest) <$> expression.result := by
  induction fuel generalizing text front expression with
  | zero => exact absurd enough (Nat.not_lt_zero _)
  | succ fuel ih =>
    cases expression with
    | unsigned operand =>
      rw [split, signed_unsigned inner fuel (operand.unsigned_of_operand written rest), ← split]
      exact (operands text bounded).complete operand split written ends
    | signed sign operand =>
      obtain ⟨blanks, more, rfl, blank, spaced⟩ := Spaced.exists_cons written
      rw [append_token] at split
      have shorter := length_lt_of_eq_append_cons split
      rw [split, signed_sign _ fuel blank,
        ih operand (by omega) (by omega) rfl spaced ends.of_append.of_append,
        Expression.result_signed, Functor.map_map, Functor.map_map]

theorem signed_stops {fuel : Nat} {text front rest : List Char} (enough : text.length < fuel)
    (bounded : text.length ≤ bound) {tokens : List (List Char)} {met : Division}
    (split : text = front ++ rest) (stops : Stops .signed tokens met) (spaced : Spaced tokens front)
    (ended : Ended front rest) : signed (operand inner) fuel text = .error met.fault := by
  induction fuel generalizing text front tokens with
  | zero => exact absurd enough (Nat.not_lt_zero _)
  | succ fuel ih =>
    cases stops with
    | unsigned stops =>
      rw [split, signed_unsigned inner fuel (stops.unsigned_of_operand spaced rest), ← split]
      exact (operands text bounded).stops split stops spaced ended
    | signed sign stops =>
      obtain ⟨blanks, more, rfl, blank, spaced⟩ := spaced.exists_cons
      rw [append_token] at split
      have shorter := length_lt_of_eq_append_cons split
      rw [split, signed_sign _ fuel blank,
        ih (by omega) (by omega) rfl stops spaced ended.of_append.of_append]
      rfl

theorem signed_breaks {fuel : Nat} {text : List Char} (enough : text.length < fuel)
    (bounded : text.length ≤ bound) {fault : Fault (List Char)}
    (breaks : Breaks .signed text fault) : signed (operand inner) fuel text = .error fault := by
  induction fuel generalizing text with
  | zero => exact absurd enough (Nat.not_lt_zero _)
  | succ fuel ih =>
    cases breaks with
    | unsigned unsigned breaks =>
      rw [signed_unsigned inner fuel unsigned]
      exact (operands text bounded).breaks breaks
    | @signed blanks blank sign rest _ breaks =>
      have shorter := length_lt_of_eq_append_cons (@rfl _ (blanks ++ sign.symbol :: rest))
      rw [signed_sign _ fuel blank, ih (by omega) (by omega) breaks]
      rfl

theorem signed_explained {fuel : Nat} {text : List Char} (enough : text.length < fuel)
    (bounded : text.length ≤ bound) :
    Explained .signed text (signed (operand inner) fuel text) := by
  induction fuel generalizing text with
  | zero => exact absurd enough (Nat.not_lt_zero _)
  | succ fuel ih =>
    by_cases signed : ∃ (sign : Sign) (rest : List Char), Text.trimStart text = sign.symbol :: rest
    · obtain ⟨sign, rest, trimmed⟩ := signed
      obtain ⟨blanks, blank, split⟩ := Text.exists_blanks text
      rw [trimmed] at split
      have shorter := length_lt_of_eq_append_cons split
      rw [split, signed_sign _ fuel blank]
      exact sign_explained blank sign (ih (by omega) (by omega))
    · have unsigned : Unsigned text := fun sign rest trimmed => signed ⟨sign, rest, trimmed⟩
      rw [signed_unsigned inner fuel unsigned]
      have explained := (operands text bounded).explained
      generalize operand inner text = result at explained
      cases explained with
      | malformed breaks => exact .malformed (.unsigned unsigned breaks)
      | stopped stops split spaced ended => exact .stopped (.unsigned stops) split spaced ended
      | read operand split written ends defined =>
        exact .read operand.unsigned split written ends defined

theorem signed_reads {fuel : Nat} {text : List Char} (enough : text.length < fuel)
    (bounded : text.length ≤ bound) : ReadsAt .signed (signed (operand inner) fuel) text where
  complete expression _ _ := signed_complete operands expression enough bounded
  stops := signed_stops operands enough bounded
  breaks := signed_breaks operands enough bounded
  explained := signed_explained operands enough bounded

end Signed

/-! ## Powers -/

theorem power_error {base : Reader} {text : List Char} {fault : Fault (List Char)}
    (failed : base text = .error fault) (fuel : Nat) :
    power base (fuel + 1) text = .error fault := by
  rw [power, failed]
  rfl

theorem power_plain {base : Reader} {text rest : List Char} {x : Float}
    (read : base text = .ok (x, rest))
    (no_exponent : Text.after? Operator.power.symbol (Text.trimStart rest) = none) (fuel : Nat) :
    power base (fuel + 1) text = .ok (x, Text.trimStart rest) := by
  rw [power, read]
  dsimp only [bind, Except.bind]
  split
  · next trimmed =>
    rw [trimmed] at no_exponent
    cases no_exponent
  · rfl

theorem power_raised {base : Reader} {text rest exponent : List Char} {x : Float}
    (read : base text = .ok (x, rest))
    (raised : Text.trimStart rest = Operator.power.symbol ++ exponent) (fuel : Nat) :
    power base (fuel + 1) text =
      (fun (y, rest) => (Operator.power.value x y, rest)) <$> power base fuel exponent := by
  rw [power, read]
  dsimp only [bind, Except.bind]
  rw [raised]
  change power base fuel exponent >>= (fun (y, rest) => .ok (Operator.power.value x y, rest)) = _
  cases power base fuel exponent <;> rfl

/-- The text after an operator is shorter than the text before which blanks are cut off. -/
theorem Operator.length_lt (operator : Operator) {text rest : List Char}
    (trimmed : Text.trimStart text = operator.symbol ++ rest) : rest.length < text.length := by
  obtain ⟨c, more, symbol, -⟩ := operator.exists_symbol_cons
  obtain ⟨blanks, -, split⟩ := Text.exists_blanks text
  rw [split, trimmed, symbol, List.length_append, List.length_append, List.length_cons]
  omega

/-- An operator stands after a text and blanks, and more follows what stands after it. -/
theorem append_symbol {first blanks symbol front rest : List Char} :
    first ++ (blanks ++ (symbol ++ front)) ++ rest =
      first ++ (blanks ++ (symbol ++ (front ++ rest))) := by
  simp only [List.append_assoc]

/-- What stands after the base and `**` explains the whole. -/
theorem raised_explained {operand : Expression .signed} {first second exponent : List Char}
    (written : operand.WrittenAs first) (before : operand.Defined)
    (raised : Text.trimStart second = Operator.power.symbol ++ exponent)
    {result : Except (Fault (List Char)) (Float × List Char)}
    (explained : Explained .power exponent result) :
    Explained .power (first ++ second)
      ((fun (y, rest) => (Operator.power.value operand.value y, rest)) <$> result) := by
  obtain ⟨blanks, blank, same⟩ := Text.exists_blanks second
  rw [raised] at same
  subst same
  cases explained with
  | malformed breaks => exact .malformed (.raised written before blank breaks)
  | stopped stops split spaced ended =>
    subst split
    refine .stopped (.raised before stops) append_symbol.symm
      (written.append (.cons blank spaced)) ?_
    simpa only [List.append_assoc] using
      ended.append (stops.leads.ne_nil spaced) (first ++ (blanks ++ Operator.power.symbol))
  | read other split further ends defined =>
    subst split
    refine .read (operand.raised other) append_symbol.symm
      (Spaced.append written (.cons blank further)) ?_ (before.raised defined)
    simpa only [List.append_assoc] using
      ends.append (other.leads.ne_nil further) (first ++ (blanks ++ Operator.power.symbol))

section Power

variable {base : Reader} {bound : Nat}
  (bases : ∀ text : List Char, text.length ≤ bound → ReadsAt .signed base text)
include bases

/-- Where a base and `**` are written, the exponent is read on a shorter text. -/
theorem power_append (operand : Expression .signed) {text first blanks exponent : List Char}
    (bounded : text.length ≤ bound)
    (split : text = first ++ (blanks ++ (Operator.power.symbol ++ exponent)))
    (written : operand.WrittenAs first) (blank : Text.Blank blanks) (fuel : Nat) :
    exponent.length < text.length ∧
      power base (fuel + 1) text = operand.result >>= fun x =>
        (fun (y, rest) => (Operator.power.value x y, rest)) <$> power base fuel exponent := by
  have read := (bases text bounded).complete operand split written
    (Operator.power.separate_symbol blank first exponent)
  have raised := Operator.power.trimStart_symbol blank exponent
  have shorter := Operator.power.length_lt raised
  constructor
  · rw [split, List.length_append]
    omega
  · cases outcome : (operand.result : Except (Fault (List Char)) Float) with
    | error fault => exact power_error (read.trans (by rw [outcome]; rfl)) fuel
    | ok x => exact power_raised (read.trans (by rw [outcome]; rfl)) raised fuel

theorem power_complete (expression : Expression .power) {fuel : Nat} {text front rest : List Char}
    (enough : text.length < fuel) (bounded : text.length ≤ bound) (split : text = front ++ rest)
    (written : expression.WrittenAs front) (ended : Ended front rest) :
    power base fuel text = (·, Text.trimStart rest) <$> expression.result := by
  induction fuel generalizing text front expression with
  | zero => exact absurd enough (Nat.not_lt_zero _)
  | succ fuel ih =>
    cases expression with
    | plain operand =>
      have read := (bases text bounded).complete operand split written ended.separate
      change power base _ text = _ <$> operand.result
      cases outcome : (operand.result : Except (Fault (List Char)) Float) with
      | error fault => exact power_error (read.trans (by rw [outcome]; rfl)) fuel
      | ok x => exact power_plain (read.trans (by rw [outcome]; rfl)) ended.no_exponent fuel
    | raised operand exponent =>
      obtain ⟨first, second, rfl, one, other⟩ := Spaced.exists_of_append written
      obtain ⟨blanks, third, rfl, blank, further⟩ := other.exists_cons
      rw [append_symbol] at split
      obtain ⟨shorter, read⟩ := power_append bases operand bounded split one blank fuel
      rw [read, ih exponent (by omega) (by omega) rfl further ended.of_append.of_append.of_append,
        Expression.result_raised]
      cases (operand.result : Except (Fault (List Char)) Float) with
      | error fault => rfl
      | ok x => cases (exponent.result : Except (Fault (List Char)) Float) <;> rfl

theorem power_stops {fuel : Nat} {text front rest : List Char} (enough : text.length < fuel)
    (bounded : text.length ≤ bound) {tokens : List (List Char)} {met : Division}
    (split : text = front ++ rest) (stops : Stops .power tokens met) (spaced : Spaced tokens front)
    (ended : Ended front rest) : power base fuel text = .error met.fault := by
  induction fuel generalizing text front tokens with
  | zero => exact absurd enough (Nat.not_lt_zero _)
  | succ fuel ih =>
    cases stops with
    | plain stops =>
      exact power_error ((bases text bounded).stops split stops spaced ended) fuel
    | @raised operand before tokens _ stops =>
      obtain ⟨first, second, rfl, one, other⟩ := spaced.exists_of_append
      obtain ⟨blanks, third, rfl, blank, further⟩ := other.exists_cons
      rw [append_symbol] at split
      obtain ⟨shorter, read⟩ := power_append bases operand bounded split one blank fuel
      rw [read, before.result_eq,
        ih (by omega) (by omega) rfl stops further ended.of_append.of_append.of_append]
      rfl

theorem power_breaks {fuel : Nat} {text : List Char} (enough : text.length < fuel)
    (bounded : text.length ≤ bound) {fault : Fault (List Char)}
    (breaks : Breaks .power text fault) : power base fuel text = .error fault := by
  induction fuel generalizing text with
  | zero => exact absurd enough (Nat.not_lt_zero _)
  | succ fuel ih =>
    cases breaks with
    | plain breaks => exact power_error ((bases text bounded).breaks breaks) fuel
    | @raised operand _ _ _ written before blank _ breaks =>
      obtain ⟨shorter, read⟩ := power_append bases operand bounded rfl written blank fuel
      rw [read, before.result_eq, ih (by omega) (by omega) breaks]
      rfl

theorem power_explained {fuel : Nat} {text : List Char} (enough : text.length < fuel)
    (bounded : text.length ≤ bound) : Explained .power text (power base fuel text) := by
  induction fuel generalizing text with
  | zero => exact absurd enough (Nat.not_lt_zero _)
  | succ fuel ih =>
    have explained := (bases text bounded).explained
    generalize outcome : base text = result at explained
    cases explained with
    | malformed breaks =>
      rw [power_error outcome]
      exact .malformed (.plain breaks)
    | stopped stops split spaced ended =>
      rw [power_error outcome]
      exact .stopped (.plain stops) split spaced ended
    | @read operand front rest split written separate defined =>
      cases after : Text.after? Operator.power.symbol (Text.trimStart rest) with
      | none =>
        rw [power_plain outcome after]
        exact .read operand.plain split written ⟨separate, after⟩ defined
      | some exponent =>
        have raised := Text.after?_eq_some_iff.1 after
        have shorter := Operator.power.length_lt raised
        have longer := congrArg List.length split
        rw [List.length_append] at longer
        rw [power_raised outcome raised, split]
        exact raised_explained written defined raised (ih (by omega) (by omega))

theorem power_reads {fuel : Nat} {text : List Char} (enough : text.length < fuel)
    (bounded : text.length ≤ bound) : ReadsAt .power (power base fuel) text where
  complete expression _ _ := power_complete bases expression enough bounded
  stops := power_stops bases enough bounded
  breaks := power_breaks bases enough bounded
  explained := power_explained bases enough bounded

end Power

end CloudTemplate.Arithmetic
