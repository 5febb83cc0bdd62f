import WorkWatch.Proofs.Except
import WorkWatch.Proofs.Expression.Spelled
import WorkWatch.Proofs.Text.Digits

/-! Tokens that are not expected. The parser reads from left to right and stops at the first token that
no expression can have at its place: whatever it has read up to there begins an expression, because an
operand can be put where one is missing and the open parentheses can be closed. -/

namespace WorkWatch

open Text

/-! The error of an unexpected token, told by its message. -/

namespace ExpressionError

theorem unexpected_of_prefix {error : ExpressionError}
    (h : "unexpected ".toList <+: error.message.toList) :
    ∃ text position, error = .unexpected text position := by
  unfold message at h
  cases error with
  | unexpected text position => exact ⟨text, position, rfl⟩
  | emptyExpression | endsEarly | emptyCondition | emptyCheck => simp at h
  | tooDeep | unbalanced | missingKind | missingPath =>
    simp [String.toList_append] at h

/-- The position is what stands behind the last space of the message. -/
theorem unexpected_of_message {error : ExpressionError} {shown : String} {position : Nat}
    (h : error.message = "unexpected " ++ shown ++ " at position " ++ natText position) :
    ∃ text, error = .unexpected text position ∧ quoted text = shown := by
  have hprefix : "unexpected ".toList <+: error.message.toList := by
    rw [h, String.toList_append, String.toList_append, String.toList_append, List.append_assoc,
      List.append_assoc]
    exact List.prefix_append _ _
  obtain ⟨text, other, rfl⟩ := unexpected_of_prefix hprefix
  have hspace (n : Nat) : ' ' ∉ digitsOf n := fun hmem =>
    absurd (Nat.isDigit_of_mem_toDigits (by decide) (by decide) hmem) (by decide)
  have hchars : ("unexpected ".toList ++ (quoted text).toList ++ " at position".toList) ++
        ' ' :: digitsOf other =
      ("unexpected ".toList ++ shown.toList ++ " at position".toList) ++ ' ' :: digitsOf position := by
    have hmessage := congrArg String.toList h
    unfold message natText at hmessage
    simpa [String.toList_append] using hmessage
  obtain ⟨hbefore, hdigits⟩ := append_sep_inj_right (hspace other) (hspace position) hchars
  have hposition : other = position := by
    rw [← ofDigits_digitsOf other, hdigits, ofDigits_digitsOf]
  have hshown := List.append_cancel_left (List.append_cancel_right hbefore)
  exact ⟨text, congrArg _ hposition, String.toList_inj.mp hshown⟩

end ExpressionError

variable {text shown : String} {position : Nat}

theorem Check.parse_ne_unexpected (check : String) :
    Check.parse check ≠ .error (.unexpected text position) := by
  unfold Check.parse
  split
  · exact nofun
  · split
    · exact nofun
    · dsimp only
      split <;> exact nofun

/-- A condition that cannot be read is an error of another kind. -/
theorem Term.parse_ne_unexpected (term : String) :
    Term.parse term ≠ .error (.unexpected text position) := by
  unfold Term.parse
  dsimp only
  split
  · exact nofun
  · split
    · exact nofun
    · split
      · exact nofun
      · exact fun h => Check.parse_ne_unexpected _ (map_eq_error_iff.mp h)

namespace Parser

/-- From the state the parser can still come to the end of an expression. -/
def Completable (state : State) : Prop :=
  ∃ rest last tree, run state rest = .ok last ∧ finish last = .ok tree

theorem Completable.before {state next : State} {token : Token} (hmoves : Moves state token next)
    (h : Completable next) : Completable state := by
  obtain ⟨rest, last, tree, hrun, hfinish⟩ := h
  exact ⟨token :: rest, last, tree, (run_cons hmoves rest).trans hrun, hfinish⟩

theorem completable_operator (groups : List Group) (alternatives : Option Expression)
    (factors : Expression) : Completable (.operator groups alternatives factors) := by
  induction groups generalizing alternatives factors with
  | nil => exact ⟨[], _, _, rfl, rfl⟩
  | cons group outer ih =>
    have hclosing : (⟨.rightParen, ")", 0⟩ : Token).kind = .rightParen := rfl
    exact (ih _ _).before (.closing hclosing)

theorem completable (state : State) : Completable state := by
  cases state with
  | operator groups alternatives factors => exact completable_operator groups alternatives factors
  | operand groups before =>
    have hkind : (⟨.condition, "Available", 0⟩ : Token).kind = .condition := rfl
    have hterm : Term.parse "Available" = .ok (.work "Available") := by decide +kernel
    exact (completable_operator _ _ _).before (.condition hkind hterm)

/-- The tokens up to the one at which the parser stops. -/
theorem run_eq_error {error : ExpressionError} {tokens : List Token} : ∀ {state : State},
    run state tokens = .error error →
      ∃ before token after reached, tokens = before ++ token :: after ∧
        run state before = .ok reached ∧ step reached token = .error error := by
  induction tokens with
  | nil => exact nofun
  | cons token tokens ih =>
    intro state h
    rw [run] at h
    cases hstep : step state token with
    | error stopped =>
      rw [hstep] at h
      cases h
      exact ⟨[], token, tokens, state, rfl, rfl, hstep⟩
    | ok next =>
      rw [hstep] at h
      obtain ⟨before, last, after, reached, rfl, hrun, hlast⟩ := ih h
      refine ⟨token :: before, last, after, reached, rfl, ?_, hlast⟩
      rw [run_cons (step_eq_ok_iff.mp hstep), hrun]

theorem run_of_step_error {state reached : State} {before : List Token} {token : Token}
    {error : ExpressionError} (hrun : run state before = .ok reached)
    (hstep : step reached token = .error error) (after : List Token) :
    run state (before ++ token :: after) = .error error := by
  rw [run_append hrun, run, hstep]

theorem step_unexpected {state : State} {token : Token}
    (h : step state token = .error (.unexpected text position)) :
    token.text = text ∧ token.position = position := by
  unfold step at h
  cases state with
  | operand groups before =>
    dsimp only at h
    split at h
    · split at h <;> cases h
    · exact absurd (map_eq_error_iff.mp h) (Term.parse_ne_unexpected _)
    · cases h
      exact ⟨rfl, rfl⟩
  | operator groups alternatives factors =>
    dsimp only at h
    split at h
    · cases h
    · cases h
    · cases h
    · cases h
      exact ⟨rfl, rfl⟩
    · cases h

end Parser

namespace Expression

theorem ofTokens_of_run {tokens : List Token} {last : Parser.State} {tree : Expression}
    (hrun : Parser.run Parser.start tokens = .ok last) (hfinish : Parser.finish last = .ok tree) :
    ofTokens tokens = .ok tree := by
  cases tokens with
  | nil =>
    cases hrun
    cases hfinish
  | cons token tokens =>
    unfold ofTokens
    rw [hrun]
    exact hfinish

/-- Only the reading of a token finds it unexpected, not the end of the tokens. -/
theorem run_of_ofTokens {tokens : List Token}
    (h : ofTokens tokens = .error (.unexpected text position)) :
    Parser.run Parser.start tokens = .error (.unexpected text position) := by
  unfold ofTokens at h
  split at h
  · cases h
  · split at h
    · unfold Parser.finish at h
      split at h <;> cases h
    · rename_i error hrun
      rw [hrun, Except.error.inj h]

/-- An error that tells of an unexpected token names a token of the text and the position at which it
stands. The tokens before it can be continued to an expression; with it they cannot. -/
theorem parse_unexpected {source : String} {error : ExpressionError}
    (h : Expression.parse source = .error error)
    (hmessage : error.message =
      "unexpected " ++ shown ++ " at position " ++ natText position) :
    ∃ before token after,
      Token.tokenize (strip source.toList) = before ++ token :: after ∧
      quoted token.text = shown ∧ token.position = position ∧
      (∃ front piece back, strip source.toList = front ++ (piece ++ back) ∧
        front.length = position ∧ Token.Spells piece token.text.toList) ∧
      (∃ rest tree, ofTokens (before ++ rest) = .ok tree) ∧
      ∀ rest, ofTokens (before ++ token :: rest) = .error error := by
  obtain ⟨text, rfl, rfl⟩ := ExpressionError.unexpected_of_message hmessage
  obtain ⟨before, token, after, reached, htokens, hrun, hstep⟩ :=
    Parser.run_eq_error (run_of_ofTokens h)
  obtain ⟨rfl, rfl⟩ := Parser.step_unexpected hstep
  have hlaid := Token.laidOut_tokenize (strip source.toList)
  rw [htokens] at hlaid
  obtain ⟨front, piece, back, hsource, hposition, hspells, -⟩ := hlaid.piece
  rw [Nat.zero_add] at hposition
  obtain ⟨rest, last, tree, hrest, hfinish⟩ := Parser.completable reached
  refine ⟨before, token, after, htokens, rfl, rfl,
    ⟨front, piece, back, hsource, hposition.symm, hspells⟩, ⟨rest, tree, ?_⟩, fun rest => ?_⟩
  · exact ofTokens_of_run ((Parser.run_append hrun rest).trans hrest) hfinish
  · unfold ofTokens
    rw [if_neg (by simp), Parser.run_of_step_error hrun hstep]

/-- A parenthesis that is closed where an operand is missing. -/
theorem parse_unexpected_closing :
    ∃ error, Expression.parse "  A OR (B && )" = .error error ∧
      error.message = "unexpected ')' at position 11" ∧
      ∃ before token, quoted token.text = "')'" ∧ token.position = 11 ∧
        (∃ rest tree, ofTokens (before ++ rest) = .ok tree) ∧
        ∀ rest, ofTokens (before ++ token :: rest) = .error error := by
  have hparse : Expression.parse "  A OR (B && )" = .error (.unexpected ")" 11) := by
    decide +kernel
  have hmessage : ExpressionError.message (.unexpected ")" 11) =
      "unexpected " ++ "')'" ++ " at position " ++ natText 11 := by decide +kernel
  obtain ⟨before, token, after, -, hshown, hposition, -, hcontinued, hstopped⟩ :=
    parse_unexpected hparse hmessage
  exact ⟨_, hparse, hmessage, before, token, hshown, hposition, hcontinued, hstopped⟩

end Expression

end WorkWatch
