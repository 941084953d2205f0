import Colloquy.Proofs.Expr.Comparison
import Colloquy.Proofs.Script.Blocks
import Colloquy.Proofs.Script.Iteration

/-!
# What was assigned compares equal to its source

An assignment evaluates an expression and stores its value.  A script that asks later whether the variable still
equals the expression, and has changed nothing that the expression is about, gets the answer that it does:
`$x == (E)` holds and `$x != (E)` does not.

There is one kind of value for which it is the other way round.  A variable has no truth values; truth is stored as
one and falsehood as zero (`Operand.toValue`), and an integer and a truth value compare as texts, of which `1` and
`true` are two.  So a flag that was assigned a comparison is to be tested as a condition, and never equals the
comparison.

### What is load-bearing

The assignment changes the scope in which the source is evaluated again.  The source comes to the same there
because it does not name the variable (`Restates.of_agree`), and it comes to the same inside parentheses because a
closing parenthesis goes on with no lexeme (`Lexeme.goesOn_append_right`).

## Main definitions

* `Expr.comparing`: the expression that compares a variable with another expression.
* `Expr.Operand.isTruth`: the values that are stored as something else.
-/

namespace Colloquy

open Text

namespace Expr

/-! ## The comparison as a text -/

/-- The text of the expression that compares a variable with another expression. -/
def comparing (name : List Char) (s : Symbol) (source : String) : String :=
  String.ofList ('$' :: name) ++ " " ++ s.text ++ " (" ++ source ++ ")"

example : comparing ['x'] .eq2 "1 + 2" = "$x == (1 + 2)" := by decide

/-- A closing parenthesis goes on with no lexeme. -/
theorem Lexeme.goesOn_append_right {l : Lexeme} {rest : List Char} (ends : l.goesOn rest = false) :
    l.goesOn (rest ++ [')']) = false := by
  cases rest with
  | nil => cases l <;> rfl
  | cons c cs =>
    by_cases dot : c = '.'
    · subst dot
      cases l with
      | word text =>
        cases cs with
        | nil => rfl
        | cons d ds => exact ends
      | _ => exact ends
    -- Behind any other character the parenthesis does not matter.
    · rw [List.cons_append, l.goesOn_cons dot _ cs]
      exact ends

/-- A text in front of a closing parenthesis has the tokens that it has alone. -/
theorem Token.Reads.append_right {cs : List Char} {ts : List Token} (h : Token.Reads cs ts) :
    Token.Reads (cs ++ [')']) (ts ++ [.op .right]) := by
  induction h with
  | @blank cs blank =>
    have alone : Token.Reads (cs ++ ((Lexeme.symbol .right).spelling ++ [])) [.op .right] :=
      .lexeme blank trivial rfl rfl (.blank (List.forall_mem_nil _))
    exact alone
  | lexeme blank proper ends means others ih =>
    rw [List.append_assoc, List.append_assoc]
    exact .lexeme blank proper (Lexeme.goesOn_append_right ends) means ih

/-- The comparison is read as the variable, the symbol and the other expression in parentheses. -/
theorem readAll_comparing {name : List Char} (isName : IsName name) (s : Symbol) {source : String}
    {ts : List Token} (read : Token.readAll source.toList = .ok ts) :
    Token.readAll (comparing name s source).toList =
      .ok (.var (String.ofList name) :: .op s :: .op .left :: (ts ++ [.op .right])) := by
  have split : (comparing name s source).toList =
      [] ++ ((Lexeme.dollar name).spelling ++ ([' '] ++ ((Lexeme.symbol s).spelling ++ ([' '] ++
        ((Lexeme.symbol .left).spelling ++ (source.toList ++ [')'])))))) := by
    simp only [comparing, String.toList_append, String.toList_ofList, Lexeme.spelling, List.append_assoc,
      List.nil_append]
    rfl
  have blank : ∀ b ∈ [' '], isBlank b = true := List.forall_mem_singleton.mpr (by decide)
  rw [split]
  refine Token.Reads.readAll_eq (.lexeme (List.forall_mem_nil _) isName ?_ rfl ?_)
  · exact Lexeme.goesOn_of_isBlank _ (by decide) _
  refine .lexeme blank trivial ?_ rfl ?_
  · exact Lexeme.goesOn_of_isBlank _ (by decide) _
  refine .lexeme blank trivial (Lexeme.goesOn_symbol (.inl rfl)) rfl ?_
  exact (Token.reads_of_readAll read).append_right

/-! ## The comparison as a phrase -/

/-- An operand as a sum. -/
def Phrase.asSum (o : Phrase .operand) : Phrase (.chain .sum) := .chain (.chain (.plain o) .done) .done

/-- The phrase of the comparison. -/
def Phrase.comparing (name : String) (s : Symbol) (compares : s.compares = true) (q : Phrase (.chain .either)) :
    Phrase (.chain .either) :=
  .chain (.chain (.compared s compares (.asSum (.var name)) (.asSum (.parens q))) .done) .done

theorem Phrase.tokens_comparing (name : String) {s : Symbol} (compares : s.compares = true)
    (q : Phrase (.chain .either)) :
    (Phrase.comparing name s compares q).tokens =
      .var name :: .op s :: .op .left :: (q.tokens ++ [.op .right]) := by
  simp only [Phrase.comparing, Phrase.asSum, Phrase.tokens, Tail.tokens, List.append_nil, List.singleton_append]

theorem eval_comparing {setting : Setting} {text name : String} {s : Symbol} (compares : s.compares = true)
    {q : Phrase (.chain .either)} {v : Operand} (value : eval setting text q.tree = .ok v) :
    eval setting text (Phrase.comparing name s compares q).tree =
      .ok (.bool ((Operand.ofValue (setting.valueOf name)).compares s v)) := by
  show (do let y ← eval setting text q.tree; (combine s (.ofValue (setting.valueOf name)) y).mapError _) = _
  rw [value]
  show (combine s _ v).mapError _ = _
  rw [combine_eq_compares compares]
  rfl

/-- **A comparison with an expression** whose variables have kept their values compares with its value. -/
theorem evaluate_comparing (here there : Setting) (answers : here.resolve = there.resolve) {name : List Char}
    (isName : IsName name) {s : Symbol} (compares : s.compares = true) {source : String}
    {p : Phrase (.chain .either)} (grammatical : Token.readAll source.toList = .ok p.tokens)
    (same : ∀ other, .var other ∈ p.tokens → here.valueOf other = there.valueOf other) {v : Operand}
    (value : evaluate there source = .ok v) :
    evaluate here (comparing name s source) =
      .ok (.bool ((Operand.ofValue (here.valueOf (String.ofList name))).compares s v)) := by
  obtain ⟨q, tokens, concurs⟩ :
      Category.Reaches (.chain .either) here there (comparing name s source) source p.tokens p.tree :=
    p.exists_restated answers (.of_agree same)
  rw [evaluate_of_phrase there grammatical] at value
  rw [value] at concurs
  have read := readAll_comparing isName s grammatical
  rw [← tokens, ← Phrase.tokens_comparing _ compares] at read
  rw [evaluate_of_phrase here read]
  exact eval_comparing compares concurs.eq_ok

/-! ## Values that are stored -/

namespace Operand

/-- The value is a truth value. -/
def isTruth : Operand → Bool
  | bool _ => true
  | _ => false

/-- What is stored shows the same as the value, but for truth values. -/
theorem shown?_stored (v : Operand) : (ofValue v.toValue).shown? = v.shown? ↔ v.isTruth = false := by
  cases v with
  | int _ | str _ | unset => exact iff_of_true rfl rfl
  | bool b => cases b <;> exact iff_of_false (by decide) (by decide)

theorem compares_stored (v : Operand) :
    (ofValue v.toValue).compares .eq2 v = !v.isTruth ∧ (ofValue v.toValue).compares .ne v = v.isTruth := by
  have equal : (ofValue v.toValue).compares .eq2 v = !v.isTruth := by
    rw [Bool.eq_iff_iff, compares_eq2_iff, shown?_stored, Bool.not_eq_true']
  exact ⟨equal, by rw [compares_ne, equal, Bool.not_not]⟩

end Operand

end Expr

/-! ## The assignment -/

open Colloquy.Expr

namespace Site

variable {ρ : Type} [PatientSource ρ] (site : Site) {n : Node}

/-- An assignment whose attributes have no braces gives its variable the value of the expression. -/
theorem assignment_of_plain {name source : String} {v : Operand} (target : n.attribute? "name" = some name)
    (plainName : ∀ c ∈ name.toList, Template.isPlain c = true) (given : n.attribute? "expr" = some source)
    (plain : ∀ c ∈ source.toList, Template.isPlain c = true) (value : site.scope.evaluate source = .ok v) :
    (site.assignment n : Draw ρ (String × Option Value)) = pure (name, some v.toValue) := by
  rw [assignment, site.text_of_plain target plainName, pure_bind, site.text?_of_plain given plain, pure_bind]
  dsimp only
  rw [value]
  rfl

end Site

/-- A name has neither braces nor blanks. -/
theorem Template.isPlain_of_isName {name : List Char} (isName : IsName name) :
    ∀ c ∈ (String.ofList name).toList, isPlain c = true := by
  rw [String.toList_ofList]
  exact fun c among => isPlain_of_isNameChar (isName.all c among)

namespace Scene

variable {ρ η : Type} [PatientSource ρ] {root script : Node} {s : Scene ρ η} {n : Node} {name : List Char}
  {source : String} {v : Operand}

theorem tick_of_assignment (host : Host η) (here : s.node? = some n)
    (named : Action.ofLabel? n.label = some .assignment) (isName : IsName name)
    (target : n.attribute? "name" = some (String.ofList name)) (given : n.attribute? "expr" = some source)
    (plain : ∀ c ∈ source.toList, Template.isPlain c = true) (value : s.scope.evaluate source = .ok v) :
    s.tick host root script =
      ({ s.past with scope := s.scope.assign (String.ofList name) v.toValue }, .quiet) := by
  have settles : (Site.assignment ⟨root, script, s.scope⟩ n : Draw ρ _) = pure _ :=
    Site.assignment_of_plain _ target (Template.isPlain_of_isName isName) given plain value
  have decides : (Site.deed ⟨root, script, s.scope⟩ n .assignment).run.run s.random =
      (.ok (.assign (String.ofList name) v.toValue), s.random) := by
    rw [Site.deed, settles, pure_bind]
    rfl
  exact tick_of_deed here named decides

/-- **What was assigned compares equal to its source.**  Behind an assignment whose expression has a value and does
not name the variable, the variable holds what is stored for the value.  If that is the value itself, the variable
equals the expression; a truth value is stored as one or zero, and the variable does not equal the expression. -/
theorem assigned_equals_source (host : Host η) (root script : Node) {s : Scene ρ η} {n : Node}
    {name : List Char} {source : String} {p : Phrase (.chain .either)} {v : Operand} (here : s.node? = some n)
    (named : Action.ofLabel? n.label = some .assignment) (isName : IsName name)
    (target : n.attribute? "name" = some (String.ofList name)) (given : n.attribute? "expr" = some source)
    (plain : ∀ c ∈ source.toList, Template.isPlain c = true)
    (grammatical : Token.readAll source.toList = .ok p.tokens)
    (unmentioned : .var (String.ofList name) ∉ p.tokens) (value : s.scope.evaluate source = .ok v) :
    ∃ t : Scene ρ η, s.tick host root script = (t, .quiet) ∧
      t = { s.past with scope := s.scope.assign (String.ofList name) v.toValue } ∧
      (v.isTruth = false →
        Operand.ofValue (t.scope.value (String.ofList name)) = v ∧
        t.scope.evaluate (comparing name .eq2 source) = .ok (.bool true) ∧
        t.scope.evaluate (comparing name .ne source) = .ok (.bool false)) ∧
      ∀ b, v = .bool b →
        t.scope.value (String.ofList name) = .int (if b then 1 else 0) ∧
        t.scope.evaluate (comparing name .eq2 source) = .ok (.bool false) ∧
        t.scope.evaluate (comparing name .ne source) = .ok (.bool true) := by
  have stored : (s.scope.assign (String.ofList name) v.toValue).value (String.ofList name) = v.toValue := by
    rw [Scope.value_assign, if_pos rfl]
  have same : ∀ other, Token.var other ∈ p.tokens →
      (s.scope.assign (String.ofList name) v.toValue).value other = s.scope.value other := by
    intro other among
    rw [Scope.value_assign, if_neg]
    rintro rfl
    exact unmentioned among
  have answer {c : Symbol} (compares : c.compares = true) :
      (s.scope.assign (String.ofList name) v.toValue).evaluate (comparing name c source) =
        .ok (.bool ((Operand.ofValue v.toValue).compares c v)) := by
    have evaluated := evaluate_comparing (s.scope.assign (String.ofList name) v.toValue).setting s.scope.setting
      rfl isName compares grammatical same value
    change _ = Except.ok (Operand.bool ((Operand.ofValue ((s.scope.assign (String.ofList name) v.toValue).value
      (String.ofList name))).compares c v)) at evaluated
    rw [stored] at evaluated
    exact evaluated
  obtain ⟨equal, differ⟩ := v.compares_stored
  refine ⟨_, tick_of_assignment host here named isName target given plain value, rfl, fun kept => ?_, ?_⟩
  · dsimp only
    rw [stored, answer rfl, answer rfl, equal, differ, kept]
    refine ⟨?_, rfl, rfl⟩
    cases v with
    | bool => cases kept
    | _ => rfl
  · rintro b rfl
    dsimp only
    rw [stored, answer rfl, answer rfl, equal, differ]
    exact ⟨rfl, rfl, rfl⟩

end Scene

/-! ## A balance and a flag -/

namespace Ledger

/-- An element that assigns an expression to a variable. -/
def entry (name source : String) : Node := .element 1 none "var" [("name", name), ("expr", source)] []

/-- The scene in front of an assignment, with a debt of seven. -/
def facing (n : Node) : Scene Listed Unit :=
  ⟨Scope.initial.assign "debt" (.int 7), ⟨[]⟩, [⟨n, [n], none⟩], (), []⟩

theorem readAll_minus_debt : Token.readAll "-$debt".toList =
    .ok (Phrase.ofSigned (.sign .minus rfl (.plain (.var "debt")))).tokens :=
  Token.readAll_of_next? rfl rfl (Token.readAll_of_next? rfl rfl (Token.readAll_of_blank rfl))

/-- The phrase of `1 == 1`. -/
def alike : Phrase (.chain .either) :=
  .chain (.chain (.compared .eq2 rfl (.asSum (.int 1)) (.asSum (.int 1))) .done) .done

theorem readAll_alike : Token.readAll "1 == 1".toList = .ok alike.tokens :=
  Token.readAll_of_next? rfl rfl (Token.readAll_of_next? rfl rfl
    (Token.readAll_of_next? rfl rfl (Token.readAll_of_blank rfl)))

theorem evaluate_alike (s : Scope) : s.evaluate "1 == 1" = .ok (.bool true) := by
  rw [Scope.evaluate, evaluate_of_phrase _ readAll_alike]
  rfl

end Ledger

/-- A balance that was assigned the debt with its sign changed equals it. -/
theorem Scene.assigned_equals_source_in_ledger : ∃ t : Scene Listed Unit,
    (Ledger.facing (Ledger.entry "balance" "-$debt")).tick Host.obliging default default = (t, .quiet) ∧
      t.scope.evaluate "$balance == (-$debt)" = .ok (.bool true) ∧
      t.scope.evaluate "$balance != (-$debt)" = .ok (.bool false) := by
  have value : (Ledger.facing (Ledger.entry "balance" "-$debt")).scope.evaluate "-$debt" = .ok (.int (-7)) := by
    rw [Scope.evaluate, evaluate_of_phrase _ Ledger.readAll_minus_debt]
    rfl
  have isName : IsName "balance".toList := by decide
  have plain : ∀ c ∈ "-$debt".toList, Template.isPlain c = true := List.all_eq_true.mp rfl
  obtain ⟨t, quiet, -, equal, -⟩ := Scene.assigned_equals_source Host.obliging default default
    (s := Ledger.facing (Ledger.entry "balance" "-$debt")) (n := Ledger.entry "balance" "-$debt") rfl rfl
    isName rfl rfl plain Ledger.readAll_minus_debt (by decide) value
  exact ⟨t, quiet, (equal rfl).2⟩

/-- A flag that was assigned a comparison that holds does not equal the comparison. -/
theorem Scene.flag_differs_from_its_source : ∃ t : Scene Listed Unit,
    (Ledger.facing (Ledger.entry "flag" "1 == 1")).tick Host.obliging default default = (t, .quiet) ∧
      t.scope.evaluate "1 == 1" = .ok (.bool true) ∧
      t.scope.evaluate "$flag == (1 == 1)" = .ok (.bool false) := by
  have isName : IsName "flag".toList := by decide
  have plain : ∀ c ∈ "1 == 1".toList, Template.isPlain c = true := List.all_eq_true.mp rfl
  refine ⟨_, Scene.tick_of_assignment Host.obliging rfl rfl isName rfl rfl plain (Ledger.evaluate_alike _),
    Ledger.evaluate_alike _, ?_⟩
  have compares : Symbol.compares .eq2 = true := rfl
  exact evaluate_comparing _ _ rfl isName compares Ledger.readAll_alike (fun _ _ => rfl) (Ledger.evaluate_alike _)

end Colloquy
