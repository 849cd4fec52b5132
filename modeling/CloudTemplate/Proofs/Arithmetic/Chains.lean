import CloudTemplate.Proofs.Arithmetic.Operands

/-!
# Sums and products

A chain is read from the left: an operand, and then operators and operands as long as there are
any. The derivation tree of a chain leans to the left as well, so what has been read is always a
tree of its own. Where a written chain is followed by something that does not belong to its last
operand, reading goes on there from the value of the tree (`chain_append`, by recursion on the
tree). In the other direction, every operator and operand that is read makes the tree larger
(`chainFrom_explained`, by induction on the fuel). With these, the reader of chains follows the
grammar where that of its operands does (`chain_reads`), and the reader of sums does with enough
nesting (`sum_reads`).
-/

set_option autoImplicit false

namespace CloudTemplate.Arithmetic

/-- What a reader does at a text is all that counts. -/
theorem ReadsAt.congr {level : Level} {reader other : Reader} {text : List Char}
    (reads : ReadsAt level reader text) (same : other text = reader text) :
    ReadsAt level other text where
  complete expression _ _ split written ends :=
    same.trans (reads.complete expression split written ends)
  stops split stops spaced ended := same.trans (reads.stops split stops spaced ended)
  breaks breaks := same.trans (reads.breaks breaks)
  explained := same ▸ reads.explained

theorem ReadsAt.length_lt {level : Level} {reader : Reader} {text rest : List Char} {x : Float}
    (reads : ReadsAt level reader text) (read : reader text = .ok (x, rest)) :
    rest.length < text.length := by
  have explained := reads.explained
  rw [read] at explained
  generalize outcome : (Except.ok (x, rest) : Except (Fault (List Char)) _) = result at explained
  cases explained with
  | malformed | stopped => cases outcome
  | @read expression front rest split written =>
    cases outcome
    have nonempty := List.length_pos_iff.2 (expression.leads.ne_nil written)
    have left := level.length_left_le rest
    rw [split, List.length_append]
    omega

/-- Only products divide. -/
theorem Chain.eq_product_of_divides {kind : Chain} {operator : Operator}
    (fits : operator ∈ kind.operators) (divides : operator.divides = true) : kind = .product := by
  cases kind with
  | product => rfl
  | sum =>
    simp only [operators, List.mem_cons, List.not_mem_nil, or_false] at fits
    rcases fits with rfl | rfl <;> cases divides

/-- An operator before an operand ends the operand before it, and it is found there. -/
theorem Chain.follows {kind : Chain} {operator : Operator} (fits : operator ∈ kind.operators)
    {blanks : List Char} (blank : Text.Blank blanks) {text : List Char}
    (apart : operator.Apart text) (front : List Char) :
    kind.operand.Ends front (blanks ++ (operator.symbol ++ text)) ∧
      kind.operator? (Text.trimStart (blanks ++ (operator.symbol ++ text))) =
        some (operator, text) := by
  refine ⟨Chain.ends_of_operator fits blank front apart, ?_⟩
  rw [operator.trimStart_symbol blank]
  exact Chain.operator?_symbol fits apart

/-- Tokens that start an expression are not taken for a part of the operator before them. -/
theorem Leads.apart {tokens : List (List Char)} (leads : Leads tokens) {text : List Char}
    (spaced : Spaced tokens text) (rest : List Char) (operator : Operator) :
    operator.Apart (text ++ rest) := by
  obtain ⟨c, more, rfl, not_asterisk, not_slash⟩ := leads.exists_cons spaced
  exact operator.apart_cons not_asterisk not_slash (more ++ rest)

section Chain

variable {kind : Chain} {operand : Reader}

theorem chainFrom_end {fuel : Nat} {text : List Char} {x : Float}
    (last : kind.operator? (Text.trimStart text) = none) :
    chainFrom kind.operator? operand (fuel + 1) x text = .ok (x, Text.trimStart text) := by
  rw [chainFrom, last]

theorem chainFrom_operator {fuel : Nat} {text rest : List Char} {x : Float} {operator : Operator}
    (found : kind.operator? (Text.trimStart text) = some (operator, rest)) :
    chainFrom kind.operator? operand (fuel + 1) x text =
      operand rest >>= fun (y, rest) => operator.apply x y >>= fun z =>
        chainFrom kind.operator? operand fuel z rest := by
  rw [chainFrom, found]

variable {bound : Nat}
  (operands : ∀ text : List Char, text.length ≤ bound → ReadsAt kind.operand operand text)
include operands

/-- How much fuel there is does not matter, as long as it is enough, nor do blanks. -/
theorem chainFrom_congr {fuel other : Nat} {text more : List Char} {x : Float}
    (bounded : text.length ≤ bound) (enough : text.length < fuel) (also : more.length < other)
    (same : Text.trimStart text = Text.trimStart more) :
    chainFrom kind.operator? operand fuel x text =
      chainFrom kind.operator? operand other x more := by
  induction fuel generalizing other text more x with
  | zero => exact absurd enough (Nat.not_lt_zero _)
  | succ fuel ih =>
    cases other with
    | zero => exact absurd also (Nat.not_lt_zero _)
    | succ other =>
      cases found : kind.operator? (Text.trimStart text) with
      | none => rw [chainFrom_end found, chainFrom_end (same ▸ found), same]
      | some found' =>
        obtain ⟨operator, rest⟩ := found'
        have symbol := (Chain.operator?_eq_some found).2
        have shorter := operator.length_lt symbol
        have shorter' := operator.length_lt (same ▸ symbol)
        rw [chainFrom_operator found, chainFrom_operator (same ▸ found)]
        cases outcome : operand rest with
        | error fault => rfl
        | ok read =>
          obtain ⟨y, left⟩ := read
          have smaller := (operands rest (by omega)).length_lt outcome
          dsimp only [bind, Except.bind]
          cases operator.apply x y with
          | error fault => rfl
          | ok z => exact ih (by omega) (by omega) (by omega) rfl

/-- Where an expression is followed by something that does not belong to its last operand, the chain
goes on there from its value. -/
theorem chain_append : (expression : Expression (.chain kind)) → ∀ {front rest : List Char},
    (front ++ rest).length ≤ bound → expression.WrittenAs front → kind.operand.Ends front rest →
    ∀ {fuel : Nat}, rest.length < fuel →
    chain kind.operator? operand (front ++ rest) =
      expression.result >>= fun x => chainFrom kind.operator? operand fuel x rest
  | .single first, front, rest, bounded, written, ends, fuel, enough => by
    have read := (operands _ bounded).complete first rfl written ends
    rw [chain, read]
    change _ = first.result >>= _
    cases (first.result : Except (Fault (List Char)) Float) with
    | error fault => rfl
    | ok x =>
      have left := kind.operand.length_left_le rest
      rw [List.length_append] at bounded
      exact chainFrom_congr operands (by omega) (Nat.lt_succ_self _) enough
        (kind.operand.trimStart_left rest)
  | .append left operator fits right, front, rest, bounded, written, ends, fuel, enough => by
    obtain ⟨first, second, rfl, one, other⟩ := Spaced.exists_of_append written
    obtain ⟨blanks, third, rfl, blank, further⟩ := other.exists_cons
    rw [append_symbol] at bounded ⊢
    obtain ⟨ends_left, found⟩ :=
      Chain.follows fits blank (right.leads.apart further rest operator) first
    have shorter := operator.length_lt (operator.trimStart_symbol blank (third ++ rest))
    rw [chain_append left bounded one ends_left (Nat.lt_succ_self _), Expression.result_append,
      bind_assoc]
    rw [List.length_append] at bounded
    refine congrArg _ (funext fun x => ?_)
    rw [chainFrom_operator found,
      (operands _ (by omega)).complete right rfl further ends.of_append.of_append.of_append]
    have left := kind.operand.length_left_le rest
    rw [List.length_append] at shorter
    cases (right.result : Except (Fault (List Char)) Float) with
    | error fault => rfl
    | ok y =>
      dsimp only [Functor.map, Except.map, bind, Except.bind]
      cases (operator.apply x y : Except (Fault (List Char)) Float) with
      | error fault => rfl
      | ok z =>
        exact chainFrom_congr operands (by omega) (by omega) enough
          (kind.operand.trimStart_left rest)

theorem chain_complete (expression : Expression (.chain kind)) {text front rest : List Char}
    (bounded : text.length ≤ bound) (split : text = front ++ rest)
    (written : expression.WrittenAs front) (ends : (Level.chain kind).Ends front rest) :
    chain kind.operator? operand text = (·, Text.trimStart rest) <$> expression.result := by
  obtain ⟨ended, last⟩ := Chain.ends_iff.1 ends
  subst split
  rw [chain_append operands expression bounded written ended (Nat.lt_succ_self _),
    map_eq_pure_bind]
  exact congrArg _ (funext fun x => chainFrom_end last)

/-- After an expression that has a value, an operator is applied to it and to the next operand. -/
theorem chain_operator {left : Expression (.chain kind)} (before : left.Defined)
    {operator : Operator} (fits : operator ∈ kind.operators) {first blanks rest : List Char}
    (bounded : (first ++ (blanks ++ (operator.symbol ++ rest))).length ≤ bound)
    (written : left.WrittenAs first) (blank : Text.Blank blanks) (apart : operator.Apart rest) :
    rest.length ≤ bound ∧ ∃ fuel,
      chain kind.operator? operand (first ++ (blanks ++ (operator.symbol ++ rest))) =
        operand rest >>= fun (y, rest) => operator.apply left.value y >>= fun z =>
          chainFrom kind.operator? operand fuel z rest := by
  obtain ⟨ends, found⟩ := Chain.follows fits blank apart first
  have shorter := operator.length_lt (operator.trimStart_symbol blank rest)
  have read := chain_append operands left bounded written ends (Nat.lt_succ_self _)
  rw [before.result_eq] at read
  rw [List.length_append] at bounded
  exact ⟨by omega, _, read.trans (chainFrom_operator found)⟩

theorem chain_stops {text front rest : List Char} (bounded : text.length ≤ bound)
    {tokens : List (List Char)} {met : Division} (split : text = front ++ rest)
    (stops : Stops (.chain kind) tokens met) (spaced : Spaced tokens front)
    (ended : Ended front rest) : chain kind.operator? operand text = .error met.fault := by
  subst split
  cases stops with
  | single stops =>
    rw [chain, (operands _ bounded).stops rfl stops spaced ended]
    rfl
  | @division _ left operator fits right before divisor divides zero =>
    obtain ⟨first, second, rfl, one, other⟩ := spaced.exists_of_append
    obtain ⟨blanks, third, rfl, blank, further⟩ := other.exists_cons
    rw [append_symbol] at bounded ⊢
    obtain ⟨within, fuel, read⟩ := chain_operator operands before fits bounded one blank
      (right.leads.apart further rest operator)
    have ends : kind.operand.Ends third rest := by
      rw [Chain.eq_product_of_divides fits divides]
      exact ended.of_append.of_append.of_append
    rw [read, (operands _ within).complete right rfl further ends, divisor.result_eq]
    dsimp only [Functor.map, Except.map, bind, Except.bind]
    rw [Operator.apply_zero divides _ zero]
  | @append _ left operator fits before tokens _ stops =>
    obtain ⟨first, second, rfl, one, other⟩ := spaced.exists_of_append
    obtain ⟨blanks, third, rfl, blank, further⟩ := other.exists_cons
    rw [append_symbol] at bounded ⊢
    obtain ⟨within, fuel, read⟩ := chain_operator operands before fits bounded one blank
      (stops.leads.apart further rest operator)
    rw [read, (operands _ within).stops rfl stops further ended.of_append.of_append.of_append]
    rfl

theorem chain_breaks {text : List Char} (bounded : text.length ≤ bound)
    {fault : Fault (List Char)} (breaks : Breaks (.chain kind) text fault) :
    chain kind.operator? operand text = .error fault := by
  cases breaks with
  | single breaks =>
    rw [chain, (operands _ bounded).breaks breaks]
    rfl
  | append fits written before blank apart breaks =>
    obtain ⟨within, fuel, read⟩ :=
      chain_operator operands before fits bounded written blank apart
    rw [read, (operands _ within).breaks breaks]
    rfl

/-- What operators and operands make of an expression that has been read explains the whole. -/
theorem chainFrom_explained (expression : Expression (.chain kind)) {fuel : Nat}
    {front rest text : List Char} (written : expression.WrittenAs front)
    (ends : kind.operand.Ends front rest) (defined : expression.Defined)
    (same : Text.trimStart text = Text.trimStart rest) (bounded : text.length ≤ bound)
    (enough : text.length < fuel) :
    Explained (.chain kind) (front ++ rest)
      (chainFrom kind.operator? operand fuel expression.value text) := by
  induction fuel generalizing expression front rest text with
  | zero => exact absurd enough (Nat.not_lt_zero _)
  | succ fuel ih =>
    cases found : kind.operator? (Text.trimStart text) with
    | none =>
      rw [chainFrom_end found, same]
      exact .read expression rfl written (Chain.ends_iff.2 ⟨ends, same ▸ found⟩) defined
    | some found' =>
      obtain ⟨operator, more⟩ := found'
      obtain ⟨fits, symbol⟩ := Chain.operator?_eq_some found
      have shorter := operator.length_lt symbol
      obtain ⟨blanks, blank, split⟩ := Text.exists_blanks rest
      rw [← same, symbol] at split
      subst split
      rw [chainFrom_operator found]
      have reads := operands more (by omega)
      have explained := reads.explained
      generalize outcome : operand more = result at explained
      cases explained with
      | malformed breaks =>
        have apart := Chain.apart_of_operator? found (same ▸ (Chain.ended ends).no_exponent)
        exact .malformed (.append fits written defined blank apart breaks)
      | stopped stops split spaced ended =>
        subst split
        refine .stopped (.append fits defined stops) append_symbol.symm
          (written.append (.cons blank spaced)) ?_
        simpa only [List.append_assoc] using
          ended.append (stops.leads.ne_nil spaced) (front ++ (blanks ++ operator.symbol))
      | @read right third others split further ended after =>
        subst split
        have smaller := reads.length_lt outcome
        have nonempty := right.leads.ne_nil further
        dsimp only [bind, Except.bind]
        rcases @Operator.apply_cases (List Char) operator expression.value right.value with
          ⟨divides, zero, applied⟩ | ⟨nonzero, applied⟩
        · rw [applied]
          refine .stopped (.division fits defined after divides zero) append_symbol.symm
            (Spaced.append written (.cons blank further)) ?_
          simpa only [List.append_assoc] using
            (Chain.ended ended).append nonempty (front ++ (blanks ++ operator.symbol))
        · rw [applied, ← append_symbol]
          refine ih (expression.append operator fits right)
            (Spaced.append written (.cons blank further)) ?_ (defined.append after nonzero)
            (kind.operand.trimStart_left others) (by omega) (by omega)
          simpa only [List.append_assoc] using
            ended.append nonempty (front ++ (blanks ++ operator.symbol))

theorem chain_explained {text : List Char} (bounded : text.length ≤ bound) :
    Explained (.chain kind) text (chain kind.operator? operand text) := by
  have explained := (operands text bounded).explained
  rw [chain]
  generalize operand text = result at explained
  cases explained with
  | malformed breaks => exact .malformed (.single breaks)
  | stopped stops split spaced ended => exact .stopped (.single stops) split spaced ended
  | @read first front rest split written ends defined =>
    have left := kind.operand.length_left_le rest
    have longer := congrArg List.length split
    rw [List.length_append] at longer
    rw [split]
    exact chainFrom_explained operands (.single first) written ends defined
      (kind.operand.trimStart_left rest) (by omega) (Nat.lt_succ_self _)

theorem chain_reads {text : List Char} (bounded : text.length ≤ bound) :
    ReadsAt (.chain kind) (chain kind.operator? operand) text where
  complete expression _ _ := chain_complete operands expression bounded
  stops := chain_stops operands bounded
  breaks := chain_breaks operands bounded
  explained := chain_explained operands bounded

end Chain

/-! ## Sums -/

section Inside

variable {inner : Reader} {text : List Char}
  (inside : ∀ part : List Char, part.length < text.length → ReadsAt (.chain .sum) inner part)
include inside

/-- In a text, signed operands are read as the grammar says where sums are in all shorter texts. -/
theorem bases_read {part : List Char} (shorter : part.length ≤ text.length) :
    ReadsAt .signed (signed (operand inner) (text.length + 1)) part :=
  signed_reads (fun _ bounded => operand_reads fun rest within => inside rest (by omega)) (by omega)
    shorter

theorem powers_read {part : List Char} (shorter : part.length ≤ text.length) :
    ReadsAt .power (power (signed (operand inner) (text.length + 1)) (text.length + 1)) part :=
  power_reads (fun _ => bases_read inside) (by omega) shorter

theorem products_read {part : List Char} (shorter : part.length ≤ text.length) :
    ReadsAt (.chain .product) (chain productOperator?
      (power (signed (operand inner) (text.length + 1)) (text.length + 1))) part :=
  @chain_reads .product _ _ (fun _ => powers_read inside) part shorter

end Inside

/-- With enough nesting, a sum is read as the grammar says. The parentheses in it hold shorter
texts. -/
theorem sum_reads {nesting : Nat} {text : List Char} (enough : text.length < nesting) :
    ReadsAt (.chain .sum) (sum nesting) text := by
  induction nesting generalizing text with
  | zero => exact absurd enough (Nat.not_lt_zero _)
  | succ nesting ih =>
    have inside : ∀ part : List Char, part.length < text.length →
        ReadsAt (.chain .sum) (sum nesting) part := fun part shorter => ih (by omega)
    exact (@chain_reads .sum _ _ (fun _ => products_read inside) text (Nat.le_refl _)).congr rfl

end CloudTemplate.Arithmetic
