import WorkWatch.Proofs.Expression.Nesting
import WorkWatch.Proofs.Text.Split

/-! Expressions as they are written: a term as one word, and the operands of AND and OR in
parentheses where they are not terms. Reading what is written gives the expression back. -/

namespace WorkWatch

open Text

def Check.text : Check → String
  | .condition name => name
  | .comparison path comparator literal => path ++ comparator.sign ++ literal

/-- A resource by its kind and, where they are given, its namespace and its name. -/
def selectorText (kind : String) : Option String → Option String → String
  | none, none => kind
  | none, some name => kind ++ "/" ++ name
  | some space, some name => kind ++ "/" ++ space ++ "/" ++ name
  | some space, none => kind ++ "/" ++ space ++ "/"

def Term.text : Term → String
  | .work type => type
  | .resource kind space name check => selectorText kind space name ++ ":" ++ check.text

/-- The text of an operand, in parentheses unless the operand is a term. -/
def Expression.enclosed (text : String) : Expression → String
  | .term _ => text
  | .and _ _ => "(" ++ text ++ ")"
  | .or _ _ => "(" ++ text ++ ")"

def Expression.text : Expression → String
  | .term t => t.text
  | .and left right => left.enclosed left.text ++ " AND " ++ right.enclosed right.text
  | .or left right => left.enclosed left.text ++ " OR " ++ right.enclosed right.text

/-! What can be written. -/

/-- Every character is part of a word, and none is barred. -/
def IsPlainText (barred : List Char) (text : String) : Prop :=
  ∀ c ∈ text.toList, Token.IsPlain c ∧ c ∉ barred

def IsName (barred : List Char) (text : String) : Prop :=
  text ≠ "" ∧ IsPlainText barred text

/-- The characters of which comparison signs are made up. -/
def signCharacters : List Char := ['<', '>', '=']

def Check.WellFormed : Check → Prop
  | .condition name => IsName signCharacters name
  | .comparison path _ literal => IsName signCharacters path ∧ IsPlainText signCharacters literal

def Term.WellFormed : Term → Prop
  | .work type => IsName [':'] type ∧ type ≠ "AND" ∧ type ≠ "OR"
  | .resource kind space name check =>
    IsName [':', '/'] kind ∧ (∀ space' ∈ space, IsName [':', '/'] space') ∧
      (∀ name' ∈ name, IsName [':', '/'] name') ∧ check.WellFormed

def Expression.WellFormed : Expression → Prop
  | .term t => t.WellFormed
  | .and left right => left.WellFormed ∧ right.WellFormed
  | .or left right => left.WellFormed ∧ right.WellFormed

instance (barred : List Char) (text : String) : Decidable (IsPlainText barred text) :=
  List.decidableBAll _ text.toList

instance (barred : List Char) (text : String) : Decidable (IsName barred text) :=
  inferInstanceAs (Decidable (_ ∧ _))

instance (check : Check) : Decidable check.WellFormed :=
  match check with
  | .condition _ => inferInstanceAs (Decidable (IsName _ _))
  | .comparison .. => inferInstanceAs (Decidable (_ ∧ _))

instance (term : Term) : Decidable term.WellFormed :=
  match term with
  | .work _ => inferInstanceAs (Decidable (_ ∧ _))
  | .resource .. => inferInstanceAs (Decidable (_ ∧ (∀ _ ∈ _, _) ∧ (∀ _ ∈ _, _) ∧ _))

instance Expression.decidableWellFormed :
    (expression : Expression) → Decidable expression.WellFormed
  | .term t => inferInstanceAs (Decidable t.WellFormed)
  | .and left right | .or left right =>
    have := left.decidableWellFormed
    have := right.decidableWellFormed
    inferInstanceAs (Decidable (_ ∧ _))

section Names

variable {barred : List Char} {text : String}

theorem IsPlainText.strip (h : IsPlainText barred text) : strip text.toList = text.toList :=
  strip_of_not_isBlank fun c hc => (h c hc).1.1

theorem IsPlainText.trimmed (h : IsPlainText barred text) : trimmed text.toList = text := by
  unfold WorkWatch.trimmed
  rw [h.strip, String.ofList_toList]

theorem IsPlainText.not_mem (h : IsPlainText barred text) {c : Char} (hc : c ∈ barred) :
    c ∉ text.toList :=
  fun hmem => (h c hmem).2 hc

theorem IsPlainText.append {text' : String} (h : IsPlainText barred text)
    (h' : IsPlainText barred text') : IsPlainText barred (text ++ text') := by
  intro c hc
  rw [String.toList_append, List.mem_append] at hc
  rcases hc with hc | hc
  · exact h c hc
  · exact h' c hc

theorem IsPlainText.imp {barred' : List Char} (h : IsPlainText barred text)
    (hbarred : barred' ⊆ barred) : IsPlainText barred' text :=
  fun c hc => ⟨(h c hc).1, fun hmem => (h c hc).2 (hbarred hmem)⟩

theorem IsName.toList_ne_nil (h : IsName barred text) : text.toList ≠ [] :=
  mt String.toList_eq_nil_iff.mp h.1

theorem IsName.isEmpty (h : IsName barred text) : text.isEmpty = false := by
  rw [String.isEmpty_eq_false_iff]
  exact h.1

theorem IsName.segment (h : IsName barred text) : segment text.toList = some text := by
  unfold WorkWatch.segment
  rw [h.2.strip, if_neg (mt List.isEmpty_iff.mp h.toList_ne_nil), String.ofList_toList]

end Names

/-! Signs of comparison. -/

theorem Comparator.mem_sign (comparator : Comparator) :
    ∀ c ∈ comparator.sign.toList, c ∈ signCharacters := by
  rcases comparator with (_ | _ | _ | _) | _ <;> simp [sign, signCharacters]

theorem Comparator.sign_cons (comparator : Comparator) :
    ∃ first more, comparator.sign.toList = first :: more ∧ first ∈ signCharacters := by
  rcases comparator with (_ | _ | _ | _) | _ <;> exact ⟨_, _, rfl, by decide⟩

/-- A sign lacks some character of every sign that is looked for before it. -/
theorem Comparator.mem_all (comparator : Comparator) :
    ∃ earlier later, Comparator.all = earlier ++ comparator :: later ∧
      ∀ other ∈ earlier, ∃ c ∈ other.sign.toList, c ∉ comparator.sign.toList := by
  rcases comparator with (_ | _ | _ | _) | _
  · exact ⟨[], _, rfl, by simp⟩
  · exact ⟨[_], _, rfl, by simp [sign]⟩
  · exact ⟨[_, _], _, rfl, by simp [sign]⟩
  · exact ⟨[_, _, _], _, rfl, by simp [sign]⟩
  · exact ⟨[_, _, _, _], _, rfl, by simp [sign]⟩

theorem Comparator.find?_eq_none {text : List Char} (h : ∀ c ∈ signCharacters, c ∉ text) :
    Comparator.find? text = none := by
  unfold find?
  rw [List.findSome?_eq_none_iff]
  intro comparator _
  obtain ⟨first, more, hsign, hfirst⟩ := comparator.sign_cons
  rw [hsign, cut?_eq_none List.mem_cons_self (h first hfirst)]
  rfl

theorem Comparator.find?_append {path literal : List Char}
    (hpath : ∀ c ∈ signCharacters, c ∉ path) (hliteral : ∀ c ∈ signCharacters, c ∉ literal)
    (comparator : Comparator) :
    Comparator.find? (path ++ (comparator.sign.toList ++ literal)) =
      some (comparator, path, literal) := by
  obtain ⟨earlier, later, hall, hearlier⟩ := comparator.mem_all
  obtain ⟨first, more, hsign, hfirst⟩ := comparator.sign_cons
  unfold find?
  rw [hall, List.findSome?_append, Option.or_eq_some_iff]
  refine Or.inr ⟨?_, ?_⟩
  · rw [List.findSome?_eq_none_iff]
    intro other hother
    obtain ⟨c, hc, hlacks⟩ := hearlier other hother
    have hmem := other.mem_sign c hc
    have hnot : c ∉ path ++ (comparator.sign.toList ++ literal) := by
      simp only [List.mem_append, not_or]
      exact ⟨hpath c hmem, hlacks, hliteral c hmem⟩
    rw [cut?_eq_none hc hnot]
    rfl
  · rw [List.findSome?_cons, hsign, cut?_append (hpath first hfirst)]
    rfl

/-! Reading a written term. -/

theorem Check.parse_written {check : Check} (h : check.WellFormed) :
    Check.parse check.text = .ok check := by
  cases check with
  | condition name =>
    have hnone : Comparator.find? name.toList = none :=
      Comparator.find?_eq_none fun c hc => h.2.not_mem hc
    unfold Check.parse Check.text
    dsimp only
    rw [if_neg (ne_true_of_eq_false h.isEmpty), hnone]
  | comparison path comparator literal =>
    obtain ⟨hpath, hliteral⟩ := h
    have hfound : Comparator.find? (path ++ comparator.sign ++ literal).toList =
        some (comparator, path.toList, literal.toList) := by
      rw [String.toList_append, String.toList_append, List.append_assoc]
      exact Comparator.find?_append (fun c hc => hpath.2.not_mem hc)
        (fun c hc => hliteral.not_mem hc) comparator
    have hnonempty : ¬ (path ++ comparator.sign ++ literal).isEmpty = true := by
      simp [hpath.1]
    unfold Check.parse Check.text
    dsimp only
    rw [if_neg hnonempty, hfound]
    dsimp only
    rw [hpath.2.trimmed, hliteral.trimmed, if_neg (ne_true_of_eq_false hpath.isEmpty)]

theorem Check.WellFormed.isName {check : Check} (h : check.WellFormed) : IsName [] check.text := by
  have hnil : ([] : List Char) ⊆ signCharacters := List.nil_subset _
  cases check with
  | condition name => exact ⟨h.1, h.2.imp hnil⟩
  | comparison path comparator literal =>
    obtain ⟨hpath, hliteral⟩ := h
    have hsign : IsPlainText [] comparator.sign := by
      rcases comparator with (_ | _ | _ | _) | _ <;> decide
    refine ⟨?_, ((hpath.2.imp hnil).append hsign).append (hliteral.imp hnil)⟩
    unfold Check.text
    simp [hpath.1]

/-- The segments of a selector; behind a namespace there is always one for the name. -/
def selectorSegments (kind : String) : Option String → Option String → List String
  | none, none => [kind]
  | none, some name => [kind, name]
  | some space, name => [kind, space, name.getD ""]

section Selectors

variable {kind : String} {space name : Option String} (hkind : IsName [':', '/'] kind)
  (hspace : ∀ space' ∈ space, IsName [':', '/'] space')
  (hname : ∀ name' ∈ name, IsName [':', '/'] name')

include hkind hspace hname

theorem isName_selectorText : IsName [':'] (selectorText kind space name) := by
  have hslash : IsPlainText [':'] "/" := by decide
  have hcolon : [':'] ⊆ [':', '/'] := by simp
  have hplain := hkind.2.imp hcolon
  have hnonempty : selectorText kind space name ≠ "" := by
    rcases space with _ | space <;> rcases name with _ | name <;> simp [selectorText, hkind.1]
  refine ⟨hnonempty, ?_⟩
  rcases space with _ | space <;> rcases name with _ | name
  · exact hplain
  · exact (hplain.append hslash).append ((hname name rfl).2.imp hcolon)
  · exact ((hplain.append hslash).append ((hspace space rfl).2.imp hcolon)).append hslash
  · exact (((hplain.append hslash).append ((hspace space rfl).2.imp hcolon)).append hslash).append
      ((hname name rfl).2.imp hcolon)

theorem pieces_selectorText :
    pieces '/' (selectorText kind space name).toList =
      (selectorSegments kind space name).map String.toList := by
  have hslash : '/' ∈ [':', '/'] := by simp
  have hpieces {text : String} (h : IsName [':', '/'] text) : '/' ∉ text.toList :=
    h.2.not_mem hslash
  rcases space with _ | space <;> rcases name with _ | name
  · exact pieces_of_not_mem (hpieces hkind)
  · have hname := hpieces (hname name rfl)
    simp only [selectorText, String.toList_append, List.append_assoc]
    exact (pieces_append (hpieces hkind) _).trans (congrArg _ (pieces_of_not_mem hname))
  · have hspace := hpieces (hspace space rfl)
    simp only [selectorText, String.toList_append, List.append_assoc]
    exact (pieces_append (hpieces hkind) _).trans (congrArg _ (pieces_append hspace []))
  · have hspace := hpieces (hspace space rfl)
    have hname := hpieces (hname name rfl)
    simp only [selectorText, String.toList_append, List.append_assoc]
    refine (pieces_append (hpieces hkind) _).trans (congrArg _ ?_)
    exact (pieces_append hspace _).trans (congrArg _ (pieces_of_not_mem hname))

end Selectors

theorem Term.WellFormed.isName {term : Term} (h : term.WellFormed) : IsName [] term.text := by
  cases term with
  | work type => exact ⟨h.1.1, h.1.2.imp (List.nil_subset _)⟩
  | resource kind space name check =>
    obtain ⟨hkind, hspace, hname, hcheck⟩ := h
    have hselector := isName_selectorText hkind hspace hname
    have hcolon : IsPlainText [] ":" := by decide
    refine ⟨?_, ((hselector.2.imp (List.nil_subset _)).append hcolon).append hcheck.isName.2⟩
    unfold Term.text
    simp [hselector.1]

theorem Term.parse_written {term : Term} (h : term.WellFormed) :
    Term.parse term.text = .ok term := by
  have htext := h.isName
  unfold Term.parse
  dsimp only
  rw [htext.2.strip, if_neg (mt List.isEmpty_iff.mp htext.toList_ne_nil), String.ofList_toList]
  cases term with
  | work type =>
    have hnone : cut? [':'] (Term.work type).text.toList = none :=
      cut?_eq_none List.mem_cons_self (h.1.2.not_mem List.mem_cons_self)
    rw [hnone]
    rfl
  | resource kind space name check =>
    obtain ⟨hkind, hspace, hname, hcheck⟩ := h
    have hselector := isName_selectorText hkind hspace hname
    have hcut : cut? [':'] (Term.resource kind space name check).text.toList =
        some ((selectorText kind space name).toList, check.text.toList) := by
      unfold Term.text
      rw [String.toList_append, String.toList_append, List.append_assoc]
      exact cut?_append (hselector.2.not_mem List.mem_cons_self) [] check.text.toList
    rw [hcut]
    dsimp only
    have hfirst : ((selectorSegments kind space name).map String.toList).headD [] =
        kind.toList := by
      rcases space with _ | space <;> rcases name with _ | name <;> rfl
    rw [hselector.2.strip, pieces_selectorText hkind hspace hname, hfirst, hkind.2.trimmed,
      if_neg (ne_true_of_eq_false hkind.isEmpty), hcheck.isName.2.trimmed,
      Check.parse_written hcheck]
    rcases space with _ | space <;> rcases name with _ | name
    · rfl
    · simp [selectorSegments, Except.map, (hname name rfl).segment]
    · have hempty : segment [] = none := rfl
      simp [selectorSegments, Except.map, (hspace space rfl).segment, hempty]
    · simp [selectorSegments, Except.map, (hspace space rfl).segment, (hname name rfl).segment]

/-! Reading a written expression. -/

theorem wordKind_eq_condition {text : String} (hand : text ≠ "AND") (hor : text ≠ "OR") :
    Token.wordKind text.toList = .condition := by
  have hand' : text.toList ≠ ['A', 'N', 'D'] := fun h => hand (String.toList_inj.mp h)
  have hor' : text.toList ≠ ['O', 'R'] := fun h => hor (String.toList_inj.mp h)
  unfold Token.wordKind
  rw [if_neg hand', if_neg hor']

theorem Term.WellFormed.wordKind {term : Term} (h : term.WellFormed) :
    Token.wordKind term.text.toList = .condition := by
  cases term with
  | work type => exact wordKind_eq_condition h.2.1 h.2.2
  | resource kind space name check =>
    have hcolon : ':' ∈ (Term.resource kind space name check).text.toList := by
      simp [Term.text]
    apply wordKind_eq_condition
    · intro hand
      rw [hand] at hcolon
      revert hcolon
      decide
    · intro hor
      rw [hor] at hcolon
      revert hcolon
      decide

theorem Term.lexemes_text {term : Term} (h : term.WellFormed) :
    Token.lexemes term.text.toList = [(.condition, term.text)] := by
  have htext := h.isName
  have hunbroken := Token.isUnbroken_of_plain fun c hc => (htext.2 c hc).1
  rw [Token.lexemes_word hunbroken htext.toList_ne_nil, h.wordKind, String.ofList_toList]

namespace Expression

open Reading Token

theorem isTerm_text {term : Term} (h : term.WellFormed) :
    tree.IsTerm 0 (tokenize term.text.toList) (.term term) := by
  have hcondition : tree.condition ⟨.condition, term.text, 0⟩ (.term term) :=
    ⟨term, Term.parse_written h, rfl⟩
  exact (isTerm_condition rfl hcondition 0).of_lexemes (Term.lexemes_text h)

theorem isTerm_parenthesized {depth : Nat} {text : String} {expression : Expression}
    (h : tree.IsExpression depth (tokenize text.toList) expression) :
    tree.IsTerm (depth + 1) (tokenize ("(" ++ text ++ ")").toList) expression := by
  have hopening : (⟨.leftParen, "(", 0⟩ : Token).kind = .leftParen := rfl
  have hclosing : (⟨.rightParen, ")", 0⟩ : Token).kind = .rightParen := rfl
  apply (isTerm_group hopening h hclosing).of_lexemes
  have htext : ("(" ++ text ++ ")").toList = '(' :: text.toList ++ [')'] := by
    simp
  rw [List.map_append, htext]
  exact lexemes_group text.toList

theorem isExpression_and {depth : Nat} {left right : String} {l r : Expression}
    (hleft : tree.IsTerm depth (tokenize left.toList) l)
    (hright : tree.IsTerm depth (tokenize right.toList) r) :
    tree.IsExpression depth (tokenize (left ++ " AND " ++ right).toList) (.and l r) := by
  have hsign : (⟨.and, "AND", 0⟩ : Token).kind = .and := rfl
  have hfactors : tree.IsFactors depth _ (.and l r) := .more (.one hleft) hsign hright
  exact IsExpression.of_and (.one hfactors)

theorem isExpression_or {depth : Nat} {left right : String} {l r : Expression}
    (hleft : tree.IsTerm depth (tokenize left.toList) l)
    (hright : tree.IsTerm depth (tokenize right.toList) r) :
    tree.IsExpression depth (tokenize (left ++ " OR " ++ right).toList) (.or l r) := by
  have hsign : (⟨.or, "OR", 0⟩ : Token).kind = .or := rfl
  have hfactors : tree.IsFactors depth _ r := .one hright
  exact IsExpression.of_or (.more (.one (.one hleft)) hsign hfactors)

theorem isTerm_enclosed {expression : Expression} (hwell : expression.WellFormed) {depth : Nat}
    (h : tree.IsExpression depth (tokenize expression.text.toList) expression) :
    tree.IsTerm (depth + 1) (tokenize (expression.enclosed expression.text).toList) expression := by
  cases expression with
  | term t => exact (isTerm_text hwell).mono (Nat.zero_le _)
  | and left right => exact isTerm_parenthesized h
  | or left right => exact isTerm_parenthesized h

theorem isTerm_operands {left right : Expression} (hleft : left.WellFormed)
    (hright : right.WellFormed)
    (hl : ∃ depth, tree.IsExpression depth (tokenize left.text.toList) left)
    (hr : ∃ depth, tree.IsExpression depth (tokenize right.text.toList) right) :
    ∃ depth, tree.IsTerm depth (tokenize (left.enclosed left.text).toList) left ∧
      tree.IsTerm depth (tokenize (right.enclosed right.text).toList) right := by
  obtain ⟨depth, hl⟩ := hl
  obtain ⟨depth', hr⟩ := hr
  refine ⟨max (depth + 1) (depth' + 1), ?_, ?_⟩
  · exact (isTerm_enclosed hleft hl).mono (Nat.le_max_left _ _)
  · exact (isTerm_enclosed hright hr).mono (Nat.le_max_right _ _)

/-- The grammar derives what is written, at some depth of the parentheses. -/
theorem isExpression_text (expression : Expression) (h : expression.WellFormed) :
    ∃ depth, tree.IsExpression depth (tokenize expression.text.toList) expression := by
  induction expression with
  | term t => exact ⟨0, (isTerm_text h).isExpression⟩
  | and left right ihl ihr =>
    obtain ⟨depth, hl, hr⟩ := isTerm_operands h.1 h.2 (ihl h.1) (ihr h.2)
    exact ⟨depth, isExpression_and hl hr⟩
  | or left right ihl ihr =>
    obtain ⟨depth, hl, hr⟩ := isTerm_operands h.1 h.2 (ihl h.1) (ihr h.2)
    exact ⟨depth, isExpression_or hl hr⟩

/-- Reading undoes writing. -/
theorem parse_text (expression : Expression) (hwell : expression.WellFormed)
    (hnesting : Nesting.Within maxNesting (Nesting.ofText expression.text.toList)) :
    parse expression.text = .ok expression := by
  obtain ⟨depth, hderived⟩ := isExpression_text expression hwell
  rw [parse_eq_ok_iff]
  apply hderived.within
  rw [Nesting.ofTokens_tokenize]
  exact hnesting

theorem parse_text_enclosed :
    ∃ expression : Expression, expression.WellFormed ∧
      Nesting.Within maxNesting (Nesting.ofText expression.text.toList) ∧
      expression.text = "(Available OR Job/batch/:succeeded>=1) AND Pod/batch/pi:Ready" ∧
      parse expression.text = .ok expression := by
  refine ⟨.and
    (.or (.term (.work "Available")) (.term (.resource "Job" (some "batch") none
      (.comparison "succeeded" (.ordered .atLeast) "1"))))
    (.term (.resource "Pod" (some "batch") (some "pi") (.condition "Ready"))), ?_, ?_, rfl, ?_⟩
  · decide
  · decide
  · exact parse_text _ (by decide) (by decide)

end Expression

end WorkWatch
