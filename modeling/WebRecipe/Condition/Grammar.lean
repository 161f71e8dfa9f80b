import WebRecipe.Condition.Token

/-!
# The grammar of conditions

Reading a condition into its tree. Operands with the operators written before and after them are
read first; the operators between operands form a flat chain, which `Chain.group` turns into a tree
by the strength of the operators: `**` is the strongest and groups to the right, then `*` `/` `%`,
`+` `-`, the relations, the equalities, `&&`, and `||` with `??`; these group to the left.

Every nested expression starts after at least one character of its own, so the length of the text
bounds the nesting.
-/

namespace WebRecipe.Condition

/-! ### Chains of operators -/

/-- An operator between two operands. -/
inductive ChainOp where
  | binary (op : BinaryOp)
  | logical (op : LogicalOp)
  deriving Repr, DecidableEq

namespace ChainOp

/-- How loosely an operator binds; `**` binds strongest. -/
def looseness : ChainOp → Nat
  | binary .pow => 0
  | binary .mul | binary .div | binary .rem => 1
  | binary .add | binary .sub => 2
  | binary .lt | binary .ltEq | binary .gt | binary .gtEq | binary .isIn | binary .instanceOf => 3
  | binary .eq | binary .notEq | binary .strictEq | binary .strictNotEq => 4
  | logical .and => 5
  | logical .or | logical .nullish => 6

/-- The operator with its operands. -/
def apply : ChainOp → Expr → Expr → Expr
  | binary op, l, r => .binary op l r
  | logical op, l, r => .logical op l r

/-- The operators written in signs. A sign stands before every other one that it starts with, apart
from `*`, which is not read where `**` is written. -/
def signs : List (String × ChainOp) :=
  [("**", binary .pow), ("*", binary .mul), ("/", binary .div), ("%", binary .rem),
    ("+", binary .add), ("-", binary .sub), ("<=", binary .ltEq), (">=", binary .gtEq),
    ("<", binary .lt), (">", binary .gt), ("===", binary .strictEq), ("!==", binary .strictNotEq),
    ("==", binary .eq), ("!=", binary .notEq), ("&&", logical .and), ("||", logical .or),
    ("??", logical .nullish)]

/-- The operators written as words. -/
def words : List (String × ChainOp) :=
  [("instanceof", binary .instanceOf), ("in", binary .isIn)]

end ChainOp

/-- Operands with the operators between them. -/
structure Chain where
  first : Expr
  rest : List (ChainOp × Expr)

namespace Chain

/-- The chain with neighbours joined by `op` combined, the last ones first. -/
def mergeRight (op : ChainOp) (a : Expr) : List (ChainOp × Expr) → Chain
  | [] => ⟨a, []⟩
  | (o, b) :: rest =>
    let c := mergeRight op b rest
    if o = op then ⟨o.apply a c.first, c.rest⟩ else ⟨a, (o, c.first) :: c.rest⟩

/-- The chain with neighbours joined by operators of looseness `k` combined, the first ones first.
-/
def mergeLeft (k : Nat) (a : Expr) : List (ChainOp × Expr) → Chain
  | [] => ⟨a, []⟩
  | (o, b) :: rest =>
    if o.looseness = k then mergeLeft k (o.apply a b) rest
    else
      let c := mergeLeft k b rest
      ⟨a, (o, c.first) :: c.rest⟩

/-- Joins the operands around every `**`, the rightmost first. -/
def joinPowers (c : Chain) : Chain :=
  mergeRight (.binary .pow) c.first c.rest

/-- Joins the operands around every operator of one strength, the leftmost first. -/
def joinLevel (k : Nat) (c : Chain) : Chain :=
  mergeLeft k c.first c.rest

/-- The tree of a chain. -/
def group (c : Chain) : Expr :=
  ([1, 2, 3, 4, 5, 6].foldl (fun c k ↦ c.joinLevel k) c.joinPowers).first

end Chain

namespace Scanner

/-! ### Operators -/

/-- A fixed text. -/
def text (s : String) : Scanner Unit :=
  literal s.toList

/-- A fixed text that stands for a value. -/
def sign {α : Type} (s : String) (a : α) : Scanner α := do
  text s
  return a

/-- A word that stands for a value. -/
def keyword {α : Type} (s : String) (a : α) : Scanner α := do
  let _ ← wordOf [s]
  return a

/-- An operator between operands. -/
def chainOp : Scanner ChainOp :=
  named (choice
    (ChainOp.signs.map (fun (s, op) ↦ sign s op) ++
      ChainOp.words.map (fun (s, op) ↦ keyword s op)))

/-- An operator that assigns: its sign goes on neither with `=` nor with `>`. -/
def assignOp : Scanner Unit :=
  named do
    choice (["**=", "+=", "-=", "*=", "/=", "%=", "&&=", "||=", "??=", "="].map text)
    match (← rest).head? with
    | some c => if c == '=' || c == '>' then failure else return
    | none => return

/-- A sign that counts up or down. -/
def updateSign : Scanner Unit :=
  named (choice [text "++", text "--"])

/-- What may stand before an operand. -/
def beforeOperand : Scanner (Expr → Expr) :=
  orElse (do updateSign; return .update)
    (named (choice
      [sign "!" (.unary .not), sign "-" (.unary .neg), sign "+" (.unary .plus),
        sign "~" (.unary .bitNot), keyword "typeof" (.unary .typeOf),
        keyword "void" (.unary .void), keyword "delete" (.unary .delete),
        keyword "await" (.unary .await)]))

/-! ### Lists -/

/-- An item after a comma. -/
def afterComma {α : Type} (item : Scanner α) : Scanner α := do
  spaces
  text ","
  spaces
  item

/-- Items with commas between them, at least one. -/
def separated {α : Type} (item : Scanner α) : Scanner (α × List α) := do
  let first ← item
  let more ← many (afterComma item)
  return (first, more)

/-- Items between brackets, possibly none. A comma may follow the last item, or stand alone. -/
def enclosed {α : Type} (opening closing : String) (item : Scanner α) : Scanner (List α) := do
  text opening
  spaces
  let items ← optional (separated item)
  spaces
  let _ ← optional (text ",")
  spaces
  text closing
  return match items with
    | some (a, more) => a :: more
    | none => []

/-! ### Operands -/

section Parts

variable (assign : Scanner Expr)

/-- Expressions with commas between them. -/
def expression : Scanner Expr :=
  named do
    let (first, more) ← separated assign
    return match more with
      | [] => first
      | second :: others => .sequence first second others

/-- An expression that is spread. -/
def spread : Scanner Expr :=
  named do
    text "..."
    spaces
    assign

/-- An item of a list: an expression, perhaps spread. -/
def element : Scanner Expr :=
  orElse (do return .spread (← spread assign)) assign

/-- What stands between two signs. -/
def between {α : Type} (opening closing : String) (p : Scanner α) : Scanner α :=
  named do
    text opening
    spaces
    let a ← p
    spaces
    text closing
    return a

/-- An expression in a template. -/
def substitution : Scanner Expr :=
  between "$\x7b" "\x7d" (expression assign)

/-- A template with its substitutions. -/
def template : Scanner Expr :=
  named do
    text "`"
    let head ← optional templateText
    let holes ← many do
      let e ← substitution assign
      let after ← optional templateText
      return (e, after.getD "")
    text "`"
    return .template (head.getD "") holes

/-- The key of a property of an object. -/
def propertyKey : Scanner PropertyKey :=
  named (choice
    [do return .computed (← between "[" "]" assign),
      do return .name (← string),
      do return .name (numberText (← number)),
      do return .name (← propertyName)])

/-- A property of an object with its value. -/
def property : Scanner Entry :=
  named do
    let key ← propertyKey assign
    spaces
    text ":"
    spaces
    return .property key (← assign)

/-- A property of an object whose value is the variable of its name. -/
def shorthand : Scanner Entry :=
  named do
    let name ← identifier
    return .property (.name name) (.ident name)

/-- An entry of an object. -/
def entry : Scanner Entry :=
  choice [do return .spread (← spread assign), property assign, shorthand]

/-- Everything from a keyword to the end of the next block between braces. -/
def withBlock (word : String) (e : Expr) : Scanner Expr :=
  named do
    named (keyword word ())
    let _ ← takeWhile (fun c ↦ c != '\x7b')
    braceBlock
    return e

/-- An expression without operators and suffixes. -/
def primary : Scanner Expr :=
  choice
    [do return .number (← number),
      do return .text (← string),
      template assign,
      named do return .bool ((← wordOf ["true", "false"]) == "true"),
      named (keyword "null" .null),
      named (keyword "undefined" .undefined),
      named (keyword "this" .this),
      withBlock "function" .function,
      withBlock "class" .classBody,
      named do return .array (← enclosed "[" "]" (element assign)),
      named do return .object (← enclosed "\x7b" "\x7d" (entry assign)),
      between "(" ")" (expression assign),
      do return .ident (← identifier)]

/-- A member that is named. -/
def memberName : Scanner (Expr → Expr) :=
  named do
    text "."
    spaces
    let name ← propertyName
    return fun e ↦ .member e (.name name)

/-- A member whose key is computed. -/
def memberIndex : Scanner (Expr → Expr) := do
  let key ← between "[" "]" (expression assign)
  return fun e ↦ .member e (.computed key)

/-- The arguments of a call. -/
def arguments : Scanner (List Expr) :=
  named (enclosed "(" ")" (element assign))

/-- What may follow after spaces. -/
def followed {α : Type} (p : Scanner α) : Scanner α := do
  spaces
  p

/-- The construction of an object. -/
def construction : Scanner Expr :=
  named do
    named (keyword "new" ())
    spaces
    let start ← primary assign
    let path ← many (followed (choice [memberName, memberIndex assign]))
    let args ← optional (followed (arguments assign))
    return .construct (path.foldl (fun e f ↦ f e) start) (args.getD [])

/-- An expression with its members and calls. -/
def withSuffixes : Scanner Expr :=
  named do
    let start ← orElse (construction assign) (primary assign)
    let path ← many (followed (choice
      [memberName, memberIndex assign, do
        let args ← arguments assign
        return fun e ↦ .call e args]))
    let updated ← optional (followed updateSign)
    let e := path.foldl (fun e f ↦ f e) start
    return if updated.isSome then .update e else e

/-- An operand with the operators before and after it. -/
def operand : Scanner Expr :=
  named do
    let before ← many do
      let f ← beforeOperand
      spaces
      return f
    let e ← withSuffixes assign
    return before.foldr (fun f e ↦ f e) e

/-! ### Whole expressions -/

/-- The operators and operands after the first operand of a chain. -/
def chainRest : Scanner (List (ChainOp × Expr)) :=
  many do
    spaces
    let op ← chainOp
    spaces
    return (op, ← operand assign)

/-- The two branches of a conditional. -/
def branches : Scanner (Expr × Expr) := do
  spaces
  text "?"
  spaces
  let yes ← assign
  spaces
  text ":"
  spaces
  let no ← assign
  return (yes, no)

/-- The expression that begins with an operand, and its branches if it is a conditional. -/
def conditionalFrom (first : Expr) : Scanner Expr := do
  let test := (Chain.mk first (← chainRest assign)).group
  match ← optional (branches assign) with
  | some (yes, no) => return .conditional test yes no
  | none => return test

/-- The rest of an assignment. -/
def assignmentTo (target : Expr) : Scanner Expr := do
  spaces
  assignOp
  spaces
  return .assignment target (← assign)

/-- The parameters of an arrow function. -/
def arrowParams : Scanner Unit :=
  named (orElse (do let _ ← identifier) do
    text "("
    spaces
    let _ ← optional (separated identifier)
    spaces
    text ")")

/-- An arrow function. -/
def arrow : Scanner Expr :=
  named do
    arrowParams
    spaces
    text "=>"
    spaces
    orElse braceBlock (forgetting do let _ ← assign)
    return .arrow

/-- An arrow function, an assignment, or a chain with or without a choice between two branches. -/
def assignmentOver : Scanner Expr :=
  named (orElse (arrow assign) do
    let first ← operand assign
    orElse (assignmentTo assign first) (conditionalFrom assign first))

end Parts

/-- An expression without commas, with expressions nested in it up to a depth. -/
def assignment : Nat → Scanner Expr
  | 0 => failure
  | depth + 1 => assignmentOver (assignment depth)

/-- A whole text: one expression with space around it. -/
def program (depth : Nat) : Scanner Expr :=
  named do
    spaces
    let e ← expression (assignment depth)
    spaces
    named do
      if (← rest).isEmpty then return e else failure

end Scanner

/-! ### Reading a text -/

/-- Why a text is no condition. -/
inductive SyntaxError where
  /-- Nothing fits at a column. -/
  | unexpected (column : Nat)
  /-- A hexadecimal number is `2 ^ 64` or more. -/
  | oversized (number : String)
  deriving Repr, DecidableEq

/-- The wording of a syntax error. -/
def SyntaxError.message : SyntaxError → String
  | unexpected column => "Unexpected token at column " ++ toString column
  | oversized number => "Failed to parse number '" ++ number ++ "'"

/-- The column, counted from one, of a position in a text. -/
def columnOf (text : List Char) (position : Nat) : Nat :=
  ((text.take position).reverse.takeWhile (fun c ↦ c != '\n')).length + 1

namespace Expr

/-- Reads a text as a condition. -/
def parse (source : String) : Except SyntaxError Expr :=
  let text := source.toList
  match Scanner.program (text.length + 1) ⟨text, 0, none⟩ with
  | .ok e c _ =>
    match c.oversized with
    | some n => .error (.oversized n)
    | none => .ok e
  | .fail reached => .error (.unexpected (columnOf text reached))

end Expr
end WebRecipe.Condition
