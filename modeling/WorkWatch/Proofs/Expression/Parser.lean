import WorkWatch.Proofs.Expression.Grammar

/-! The parser accepts what the grammar derives, and the tree it gives is that of the derivation.
From left to right, the state of the parser describes how the tokens read so far can begin an
expression; and a part that the grammar derives takes the parser from before an operand to after
it. -/

namespace WorkWatch

namespace Parser

/-- The moves of the parser. -/
inductive Moves : State → Token → State → Prop
  | opening {groups : List Group} {before : Before} {token : Token}
      (hkind : token.kind = .leftParen) (hroom : groups.length < maxNesting) :
      Moves (.operand groups before) token
        (.operand (⟨token.position, before⟩ :: groups) .nothing)
  | condition {groups : List Group} {before : Before} {token : Token} {term : Term}
      (hkind : token.kind = .condition) (hterm : Term.parse token.text = .ok term) :
      Moves (.operand groups before) token
        (.operator groups before.alternatives (before.conjoin (.term term)))
  | and {groups : List Group} {alternatives : Option Expression} {factors : Expression}
      {token : Token} (hkind : token.kind = .and) :
      Moves (.operator groups alternatives factors) token
        (.operand groups ⟨alternatives, some factors⟩)
  | or {groups : List Group} {alternatives : Option Expression} {factors : Expression}
      {token : Token} (hkind : token.kind = .or) :
      Moves (.operator groups alternatives factors) token
        (.operand groups ⟨some (disjoin alternatives factors), none⟩)
  | closing {group : Group} {outer : List Group} {alternatives : Option Expression}
      {factors : Expression} {token : Token} (hkind : token.kind = .rightParen) :
      Moves (.operator (group :: outer) alternatives factors) token
        (.operator outer group.before.alternatives
          (group.before.conjoin (disjoin alternatives factors)))

theorem step_eq_ok_iff {state next : State} {token : Token} :
    step state token = .ok next ↔ Moves state token next := by
  constructor
  · intro h
    cases state with
    | operand groups before =>
      rw [step] at h
      cases hkind : token.kind with
      | leftParen =>
        simp only [hkind] at h
        split at h
        · cases h
        · rename_i hroom
          cases h
          exact .opening hkind (Nat.not_le.mp hroom)
      | condition =>
        simp only [hkind] at h
        cases hterm : Term.parse token.text with
        | error error => rw [hterm] at h; cases h
        | ok term =>
          rw [hterm] at h
          cases h
          exact .condition hkind hterm
      | rightParen => simp [hkind] at h
      | and => simp [hkind] at h
      | or => simp [hkind] at h
    | operator groups alternatives factors =>
      unfold step at h
      cases hkind : token.kind with
      | and =>
        simp only [hkind] at h
        cases h
        exact .and hkind
      | or =>
        simp only [hkind] at h
        cases h
        exact .or hkind
      | rightParen =>
        cases groups with
        | nil => simp [hkind] at h
        | cons group outer =>
          simp only [hkind] at h
          cases h
          exact .closing hkind
      | leftParen => cases groups <;> simp [hkind] at h
      | condition => cases groups <;> simp [hkind] at h
  · intro h
    cases h with
    | opening hkind hroom => simp [step, hkind, hroom]
    | condition hkind hterm => simp [step, hkind, hterm, Except.map]
    | and hkind => simp [step, hkind]
    | or hkind => simp [step, hkind]
    | closing hkind => simp [step, hkind]

theorem run_cons {state next : State} {token : Token} (h : Moves state token next)
    (rest : List Token) : run state (token :: rest) = run next rest := by
  rw [run, step_eq_ok_iff.mpr h]

theorem run_append {state next : State} {tokens : List Token} (h : run state tokens = .ok next)
    (rest : List Token) : run state (tokens ++ rest) = run next rest := by
  induction tokens generalizing state with
  | nil =>
    cases h
    rfl
  | cons token tokens ih =>
    rw [run] at h
    rw [List.cons_append, run]
    cases hstep : step state token with
    | ok stepped =>
      rw [hstep] at h
      exact ih h
    | error error =>
      rw [hstep] at h
      cases h

/-! From the grammar to the parser. -/

/-- The parser gets from before an operand to after it, whatever stands before. -/
def Passes (groups : List Group) (tokens : List Token) (operand : Expression) : Prop :=
  ∀ before, run (.operand groups before) tokens =
    .ok (.operator groups before.alternatives (before.conjoin operand))

theorem run_factors {groups : List Group} {part : List Token → Expression → Prop}
    (hpart : ∀ tokens operand, part tokens operand → Passes groups tokens operand)
    {tokens : List Token} {factors : Expression} (h : Chain .and .and part tokens factors)
    (alternatives : Option Expression) :
    run (.operand groups ⟨alternatives, none⟩) tokens =
      .ok (.operator groups alternatives factors) := by
  induction h with
  | one h => exact hpart _ _ h ⟨alternatives, none⟩
  | more _ hsign hright ih =>
    rw [run_append ih, run_cons (.and hsign)]
    exact hpart _ _ hright _

theorem run_expression {groups : List Group} {part : List Token → Expression → Prop}
    (hpart : ∀ tokens operand, part tokens operand → Passes groups tokens operand)
    {tokens : List Token} {expression : Expression}
    (h : Chain .or .or (Chain .and .and part) tokens expression) :
    ∃ alternatives factors, disjoin alternatives factors = expression ∧
      run (.operand groups .nothing) tokens = .ok (.operator groups alternatives factors) := by
  induction h with
  | one h => exact ⟨none, _, rfl, run_factors hpart h none⟩
  | @more _ _ _ left right _ hsign hright ih =>
    obtain ⟨alternatives, factors, rfl, hrun⟩ := ih
    refine ⟨some (disjoin alternatives factors), right, rfl, ?_⟩
    rw [run_append hrun, run_cons (.or hsign)]
    exact run_factors hpart hright _

theorem passes_of_isTerm {depth : Nat} : ∀ {groups : List Group} {tokens : List Token}
    {operand : Expression}, groups.length + depth ≤ maxNesting →
      Reading.tree.IsTerm depth tokens operand → Passes groups tokens operand := by
  have hcondition {groups token operand} (hkind : token.kind = .condition)
      (h : Reading.tree.condition token operand) : Passes groups [token] operand := by
    obtain ⟨term, hterm, rfl⟩ := h
    intro before
    rw [run_cons (.condition hkind hterm)]
    rfl
  -- On the depth of the parentheses, for any groups that are open around them.
  induction depth with
  | zero =>
    intro groups tokens operand _ h
    cases h with
    | condition hkind h => exact hcondition hkind h
    | group _ h => exact h.elim
  | succ depth ih =>
    intro groups tokens operand hdepth h
    cases h with
    | condition hkind h => exact hcondition hkind h
    | @group opening closing inner _ hopening h hclosing =>
      intro before
      have hpart : ∀ tokens operand, Reading.tree.IsTerm depth tokens operand →
          Passes (⟨opening.position, before⟩ :: groups) tokens operand := by
        intro tokens operand h
        apply ih _ h
        rw [List.length_cons]
        omega
      obtain ⟨alternatives, factors, rfl, hrun⟩ := run_expression hpart h
      rw [List.cons_append, run_cons (.opening hopening (by omega)), run_append hrun,
        run_cons (.closing hclosing)]
      rfl

/-! From the parser to the grammar. -/

/-- What stands ahead of a part: nothing, or a chain with the sign after it. -/
inductive Ahead (sign : TokenKind) (whole : List Token → Expression → Prop) :
    List Token → Option Expression → Prop
  | nothing : Ahead sign whole [] none
  | sign {tokens : List Token} {token : Token} {value : Expression} (h : whole tokens value)
      (hsign : token.kind = sign) : Ahead sign whole (tokens ++ [token]) (some value)

theorem Ahead.chain {sign : TokenKind} {link : Expression → Expression → Expression}
    {part : List Token → Expression → Prop} {before after : List Token} {left : Option Expression}
    {right : Expression} (hbefore : Ahead sign (Chain sign link part) before left)
    (hright : part after right) :
    Chain sign link part (before ++ after) (left.elim right fun left => link left right) := by
  cases hbefore with
  | nothing => exact .one hright
  | sign h hsign =>
    rw [List.append_assoc]
    exact .more h hsign hright

theorem Ahead.disjoin {depth : Nat} {before after : List Token} {alternatives : Option Expression}
    {factors : Expression}
    (hbefore : Ahead .or (Reading.tree.IsExpression depth) before alternatives)
    (hfactors : Reading.tree.IsFactors depth after factors) :
    Reading.tree.IsExpression depth (before ++ after) (Parser.disjoin alternatives factors) := by
  have hchain := hbefore.chain hfactors
  cases alternatives with
  | none => exact hchain
  | some alternatives => exact hchain

theorem Before.conjoin_eq (before : Before) (operand : Expression) :
    before.conjoin operand = before.factors.elim operand fun factors => .and factors operand := by
  unfold conjoin
  cases before.factors <;> rfl

/-- The tokens since the last parenthesis, where an operand comes next. -/
inductive Awaits (depth : Nat) : List Token → Before → Prop
  | mk {alternatives factors : List Token} {before : Before}
      (halternatives : Ahead .or (Reading.tree.IsExpression depth) alternatives
        before.alternatives)
      (hfactors : Ahead .and (Reading.tree.IsFactors depth) factors before.factors) :
      Awaits depth (alternatives ++ factors) before

theorem awaits_nothing (depth : Nat) : Awaits depth [] .nothing := by
  have hawaits : Awaits depth ([] ++ []) .nothing := .mk .nothing .nothing
  exact hawaits

/-- The tokens up to the last parenthesis that is still open. -/
inductive Opened : List Token → List Group → Prop
  | none : Opened [] []
  | more {tokens before : List Token} {opening : Token} {group : Group} {outer : List Group}
      (houter : Opened tokens outer)
      (hbefore : Awaits (maxNesting - outer.length) before group.before)
      (hopening : opening.kind = .leftParen) (hroom : outer.length < maxNesting) :
      Opened (tokens ++ before ++ [opening]) (group :: outer)

/-- How the tokens read so far begin an expression. -/
inductive Reached : List Token → State → Prop
  | operand {outside inside : List Token} {groups : List Group} {before : Before}
      (hopened : Opened outside groups)
      (hbefore : Awaits (maxNesting - groups.length) inside before) :
      Reached (outside ++ inside) (.operand groups before)
  | operator {outside before after : List Token} {groups : List Group}
      {alternatives : Option Expression} {factors : Expression} (hopened : Opened outside groups)
      (halternatives : Ahead .or (Reading.tree.IsExpression (maxNesting - groups.length)) before
        alternatives)
      (hfactors : Reading.tree.IsFactors (maxNesting - groups.length) after factors) :
      Reached (outside ++ (before ++ after)) (.operator groups alternatives factors)

theorem Reached.operand_read {outside inside after : List Token} {groups : List Group}
    {before : Before} {operand : Expression} (hopened : Opened outside groups)
    (hbefore : Awaits (maxNesting - groups.length) inside before)
    (hoperand : Reading.tree.IsTerm (maxNesting - groups.length) after operand) :
    Reached (outside ++ (inside ++ after))
      (.operator groups before.alternatives (before.conjoin operand)) := by
  cases hbefore with
  | mk halternatives hfactors =>
    rw [List.append_assoc, Before.conjoin_eq]
    exact .operator hopened halternatives (hfactors.chain hoperand)

theorem Reached.move {tokens : List Token} {state next : State} {token : Token}
    (h : Reached tokens state) (hmoves : Moves state token next) :
    Reached (tokens ++ [token]) next := by
  cases h with
  | operand hopened hbefore =>
    cases hmoves with
    | opening hkind hroom =>
      have hinner : Opened _ (⟨token.position, _⟩ :: _) := .more hopened hbefore hkind hroom
      have hreached := Reached.operand hinner (awaits_nothing _)
      rw [List.append_nil] at hreached
      exact hreached
    | condition hkind hterm =>
      rw [List.append_assoc]
      exact operand_read hopened hbefore
        (Reading.isTerm_condition hkind (Reading.tree_condition hterm) _)
  | operator hopened halternatives hfactors =>
    have hexpression := halternatives.disjoin hfactors
    cases hmoves with
    | and hkind =>
      rw [List.append_assoc, List.append_assoc]
      exact .operand hopened (.mk halternatives (.sign hfactors hkind))
    | or hkind =>
      rw [List.append_assoc, ← List.append_nil (_ ++ [token])]
      exact .operand hopened (.mk (.sign hexpression hkind) .nothing)
    | @closing group outer _ _ _ hkind =>
      cases hopened with
      | more houter hbefore hopening hroom =>
        have hdepth : maxNesting - outer.length = maxNesting - (outer.length + 1) + 1 := by omega
        have hgroup := Reading.isTerm_group hopening hexpression hkind
        rw [List.length_cons, ← hdepth] at hgroup
        have hreached := operand_read houter hbefore hgroup
        simp only [List.append_assoc, List.cons_append, List.nil_append] at hreached ⊢
        exact hreached

theorem Reached.run {rest : List Token} : ∀ {tokens : List Token} {state next : State},
    Reached tokens state → Parser.run state rest = .ok next → Reached (tokens ++ rest) next := by
  induction rest with
  | nil =>
    intro tokens state next h hrun
    cases hrun
    rw [List.append_nil]
    exact h
  | cons token rest ih =>
    intro tokens state next h hrun
    rw [Parser.run] at hrun
    cases hstep : step state token with
    | error error =>
      rw [hstep] at hrun
      cases hrun
    | ok stepped =>
      rw [hstep] at hrun
      have hreached := ih (h.move (step_eq_ok_iff.mp hstep)) hrun
      rw [List.append_assoc] at hreached
      exact hreached

theorem Reached.finish {tokens : List Token} {state : State} {tree : Expression}
    (h : Reached tokens state) (hfinish : Parser.finish state = .ok tree) :
    Reading.tree.IsExpression maxNesting tokens tree := by
  cases h with
  | operand => cases hfinish
  | @operator _ _ _ groups _ _ hopened halternatives hfactors =>
    cases groups with
    | cons group outer => cases hfinish
    | nil =>
      cases hopened
      cases hfinish
      exact halternatives.disjoin hfactors

end Parser

/-- If the token is a condition, its text is one. -/
def Token.Accepted (token : Token) : Prop :=
  token.kind = .condition → ∃ term, Term.parse token.text = .ok term

namespace Reading

theorem tree_agrees_shape : tree.Agrees shape Eq fun _ _ => True := by
  refine ⟨?_, fun _ _ _ => ⟨(), trivial, trivial⟩, fun _ _ => trivial, fun _ _ => trivial⟩
  rintro token _ rfl
  rfl

theorem shape_agrees_tree :
    shape.Agrees tree (fun token' token => token' = token ∧ token.Accepted) fun _ _ => True := by
  refine ⟨?_, ?_, fun _ _ => trivial, fun _ _ => trivial⟩
  · rintro token _ ⟨rfl, -⟩
    rfl
  · rintro token _ _ ⟨rfl, haccepted⟩ hkind -
    obtain ⟨term, hterm⟩ := haccepted hkind
    exact ⟨.term term, tree_condition hterm, trivial⟩

end Reading

namespace Expression

open Reading

/-- The parser gives a tree exactly if the grammar derives the tokens with that tree. -/
theorem ofTokens_eq_ok_iff {tokens : List Token} {expression : Expression} :
    ofTokens tokens = .ok expression ↔ tree.IsExpression maxNesting tokens expression := by
  unfold ofTokens
  constructor
  -- One way every move keeps what the tokens read so far begin; the other way the parser is led
  -- along the derivation.
  · intro h
    split at h
    · cases h
    · cases hrun : Parser.run Parser.start tokens with
      | error error =>
        rw [hrun] at h
        cases h
      | ok state =>
        rw [hrun] at h
        have hstart : Parser.Reached ([] ++ []) Parser.start :=
          .operand .none (Parser.awaits_nothing _)
        exact (hstart.run hrun).finish h
  · intro h
    have hpasses : ∀ tokens operand, tree.IsTerm maxNesting tokens operand →
        Parser.Passes [] tokens operand :=
      fun _ _ => Parser.passes_of_isTerm (Nat.le_of_eq (Nat.zero_add _))
    obtain ⟨alternatives, factors, rfl, hrun⟩ := Parser.run_expression hpasses h
    have hrun' : Parser.run Parser.start tokens = .ok (.operator [] alternatives factors) := hrun
    rw [if_neg, hrun']
    · rfl
    · intro hempty
      rw [List.isEmpty_iff.mp hempty] at hrun
      cases hrun

/-- Where every condition is accepted, the shape of the tokens alone decides whether they have a
tree. -/
theorem shape_iff_tree {depth : Nat} {tokens : List Token}
    (haccepted : ∀ token ∈ tokens, token.Accepted) :
    shape.IsExpression depth tokens () ↔
      ∃ expression, tree.IsExpression depth tokens expression := by
  constructor
  · intro h
    have hsame : List.Forall₂ (fun token' token => token' = token ∧ token.Accepted) tokens tokens :=
      List.forall₂_same.mpr fun token hmem => ⟨rfl, haccepted token hmem⟩
    obtain ⟨expression, h', -⟩ := shape_agrees_tree.isExpression h hsame
    exact ⟨expression, h'⟩
  · rintro ⟨expression, h⟩
    have hsame : List.Forall₂ Eq tokens tokens := List.forall₂_same.mpr fun _ _ => rfl
    obtain ⟨_, h', -⟩ := tree_agrees_shape.isExpression h hsame
    exact h'

/-- The parser accepts exactly the tokens that have the shape of an expression, and gives the one
tree that the grammar derives for them; all other tokens are an error. -/
theorem ofTokens_accepts (tokens : List Token)
    (haccepted : ∀ token ∈ tokens, token.Accepted) :
    ((∃ expression, ofTokens tokens = .ok expression) ↔ shape.IsExpression maxNesting tokens ()) ∧
    (∀ expression, ofTokens tokens = .ok expression ↔
      tree.IsExpression maxNesting tokens expression) ∧
    (shape.IsExpression maxNesting tokens () →
      ∃! expression, tree.IsExpression maxNesting tokens expression) ∧
    (¬ shape.IsExpression maxNesting tokens () → ∃ error, ofTokens tokens = .error error) := by
  have haccepts : (∃ expression, ofTokens tokens = .ok expression) ↔
      shape.IsExpression maxNesting tokens () := by
    rw [shape_iff_tree haccepted]
    exact exists_congr fun _ => ofTokens_eq_ok_iff
  refine ⟨haccepts, fun _ => ofTokens_eq_ok_iff, ?_, ?_⟩
  · intro hshape
    obtain ⟨expression, htree⟩ := (shape_iff_tree haccepted).mp hshape
    refine ⟨expression, htree, ?_⟩
    intro other hother
    rw [← ofTokens_eq_ok_iff] at htree hother
    exact Except.ok.inj (hother.symm.trans htree)
  · intro hshape
    cases hresult : ofTokens tokens with
    | error error => exact ⟨error, rfl⟩
    | ok expression => exact absurd (haccepts.mp ⟨expression, hresult⟩) hshape

/-- The tokens of `A OR B AND (C)`. -/
def mixedTokens : List Token :=
  [⟨.condition, "A", 0⟩, ⟨.or, "OR", 2⟩, ⟨.condition, "B", 5⟩, ⟨.and, "AND", 7⟩,
    ⟨.leftParen, "(", 11⟩, ⟨.condition, "C", 12⟩, ⟨.rightParen, ")", 13⟩]

theorem ofTokens_accepts_mixed :
    (∀ token ∈ mixedTokens, token.Accepted) ∧ shape.IsExpression maxNesting mixedTokens () ∧
      tree.IsExpression maxNesting mixedTokens
        (.or (.term (.work "A")) (.and (.term (.work "B")) (.term (.work "C")))) := by
  have haccepted : ∀ token ∈ mixedTokens, token.Accepted := by
    simp only [mixedTokens, List.forall_mem_cons]
    exact ⟨fun _ => ⟨.work "A", rfl⟩, nofun, fun _ => ⟨.work "B", rfl⟩, nofun, nofun,
      fun _ => ⟨.work "C", rfl⟩, nofun, List.forall_mem_nil _⟩
  have hparsed : ofTokens mixedTokens =
      .ok (.or (.term (.work "A")) (.and (.term (.work "B")) (.term (.work "C")))) := rfl
  have haccepts := ofTokens_accepts mixedTokens haccepted
  exact ⟨haccepted, haccepts.1.mp ⟨_, hparsed⟩, (haccepts.2.1 _).mp hparsed⟩

end Expression

end WorkWatch
