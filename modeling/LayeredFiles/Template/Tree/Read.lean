import LayeredFiles.Template.Token.Scan
import LayeredFiles.Template.Tree
/-
Module: LayeredFiles.Template.Tree.Read
Layer: Template
Purpose: reading the tree of a template from its tokens. The operators bind, from the loosest to the
  tightest: conditional, or, and, not, comparisons, sums, joining of texts, products, powers, signs.
  Every level is a function of the reader for signed operands, so one function recurs. The
  statements are conditions, loops and bindings; a template with another one (inheritance, inclusion,
  macros) is reported as malformed.
Main exports: Reader, readUnary, Grammar.expression, readBody, readTemplate
-/

namespace LayeredFiles.Template

/-- A reader takes tokens from the front of a list. -/
abbrev Reader := StateT (List Token) (Except SyntaxFault)

namespace Reader

/-- The token at the front; none at the end of the text. -/
def current : Reader (Option TokenKind) := fun ts => .ok (ts.head?.map (·.kind), ts)

/-- The line of the token at the front. At the end of the text no line is asked for. -/
def line : Reader Nat := fun ts => .ok ((ts.head?.map (·.line)).getD 1, ts)

/-- Goes on to the next token. A fault in the text shows when it is reached. -/
def advance : Reader Unit := fun ts =>
  match ts.tail with
  | ⟨_, .bad fault⟩ :: _ => .error fault
  | rest => .ok ((), rest)

/-- Gives up. -/
def fail {α : Type} (fault : SyntaxFault) : Reader α := fun _ => .error fault

/-- How messages call the token at the front. -/
def describe : Reader String := do
  match ← current with
  | some kind => pure kind.describe
  | none => pure endDescription

/-- Fails because another token is wanted. -/
def missing {α : Type} (wanted : String) : Reader α := do
  match ← current with
  | some kind => fail (.expected wanted kind.describe)
  | none => fail (.endedBefore wanted)

/-- The operator is at the front. -/
def atOperator (op : Operator) : Reader Bool := do
  pure ((← current) == some (.operator op))

/-- The name is at the front. -/
def atName (name : String) : Reader Bool := do
  pure ((← current) == some (.name name))

/-- Passes an operator if it is at the front. -/
def skipOperator (op : Operator) : Reader Bool := do
  if ← atOperator op then advance; pure true else pure false

/-- Passes a name if it is at the front. -/
def skipName (name : String) : Reader Bool := do
  if ← atName name then advance; pure true else pure false

/-- Passes an operator that must be at the front. -/
def expectOperator (op : Operator) : Reader Unit := do
  if ← atOperator op then advance else missing op.text

/-- Passes a keyword that must be at the front. -/
def expectKeyword (name : String) : Reader Unit := do
  if ← atName name then advance else missing name

/-- Passes a token without a content of its own that must be at the front. -/
def expectKind (kind : TokenKind) : Reader Unit := do
  if (← current) == some kind then advance else missing kind.describe

/-- Any name, which must be at the front. -/
def expectName : Reader String := do
  match ← current with
  | some (.name name) => advance; pure name
  | _ => missing "name"

/-- Whether the token after the front is of a kind. -/
def nextIs (kind : TokenKind) : Reader Bool := fun ts =>
  match advance ts with
  | .error fault => .error fault
  | .ok (_, rest) => .ok (rest.head?.map (·.kind) == some kind, ts)

end Reader

open Reader

/-! ### Levels of operators -/

/-- Operands with operators between them, grouped from the left. `fuel` bounds their number. -/
def readLeft (operand : Reader Expr) (op? : TokenKind → Option (Expr → Expr → Expr)) :
    Nat → Expr → Reader Expr
  | 0, left => pure left
  | fuel + 1, left => do
    match (← current).bind op? with
    | some op =>
      advance
      let right ← operand
      readLeft operand op? fuel (op left right)
    | none => pure left

/-- A level of operators that group from the left. -/
def readLevel (fuel : Nat) (operand : Reader Expr)
    (op? : TokenKind → Option (Expr → Expr → Expr)) : Reader Expr := do
  readLeft operand op? fuel (← operand)

/-- The operation of a token at the level of powers. -/
def powerOf : TokenKind → Option (Expr → Expr → Expr)
  | .operator .pow => some (.binary .pow)
  | _ => none

/-- The operation of a token at the level of products. -/
def productOf : TokenKind → Option (Expr → Expr → Expr)
  | .operator .mul => some (.binary .mul)
  | .operator .div => some (.binary .div)
  | .operator .floorDiv => some (.binary .floorDiv)
  | .operator .mod => some (.binary .mod)
  | _ => none

/-- The operation of a token at the level of sums. -/
def sumOf : TokenKind → Option (Expr → Expr → Expr)
  | .operator .add => some (.binary .add)
  | .operator .sub => some (.binary .sub)
  | _ => none

/-- The conjunction, if the token is one. -/
def conjunctionOf : TokenKind → Option (Expr → Expr → Expr)
  | .name "and" => some .and
  | _ => none

/-- The disjunction, if the token is one. -/
def disjunctionOf : TokenKind → Option (Expr → Expr → Expr)
  | .name "or" => some .or
  | _ => none

/-- More texts that are joined, each after a tilde. -/
def readJoined (operand : Reader Expr) : Nat → Reader (List Expr)
  | 0 => pure []
  | fuel + 1 => do
    if ← skipOperator .tilde then
      let e ← operand
      pure (e :: (← readJoined operand fuel))
    else pure []

/-- Texts that are joined. -/
def readConcat (fuel : Nat) (operand : Reader Expr) : Reader Expr := do
  let first ← operand
  match ← readJoined operand fuel with
  | [] => pure first
  | rest => pure (.concat (first :: rest))

/-- The comparison at the front, which is passed. -/
def readComparison? : Reader (Option Comparison) := do
  let found (c : Comparison) : Reader (Option Comparison) := do
    advance
    pure (some c)
  match ← current with
  | some (.operator .eq) => found .eq
  | some (.operator .ne) => found .ne
  | some (.operator .lt) => found .lt
  | some (.operator .le) => found .le
  | some (.operator .gt) => found .gt
  | some (.operator .ge) => found .ge
  | some (.name "in") => found .isIn
  | some (.name "not") =>
    if ← nextIs (.name "in") then
      advance
      found .notIn
    else pure none
  | _ => pure none

/-- More operands of a chain of comparisons. -/
def readComparisons (operand : Reader Expr) : Nat → Reader (List (Comparison × Expr))
  | 0 => pure []
  | fuel + 1 => do
    match ← readComparison? with
    | some c =>
      let e ← operand
      pure ((c, e) :: (← readComparisons operand fuel))
    | none => pure []

/-- A chain of comparisons. -/
def readCompare (fuel : Nat) (operand : Reader Expr) : Reader Expr := do
  let first ← operand
  match ← readComparisons operand fuel with
  | [] => pure first
  | rest => pure (.compare first rest)

/-- An operand with negations in front. -/
def readNot (operand : Reader Expr) : Nat → Reader Expr
  | 0 => operand
  | fuel + 1 => do
    if ← skipName "not" then
      pure (.not (← readNot operand fuel))
    else operand

/-- Everything but conditional expressions, from signed operands. -/
def readDisjunction (fuel : Nat) (unary : Reader Expr) : Reader Expr :=
  let power := readLevel fuel unary powerOf
  let product := readLevel fuel power productOf
  let concat := readConcat fuel product
  let sum := readLevel fuel concat sumOf
  let compare := readCompare fuel sum
  let negation := readNot compare fuel
  let conjunction := readLevel fuel negation conjunctionOf
  readLevel fuel conjunction disjunctionOf

/-- Conditions that follow an expression. -/
def readConditions (operand whole : Reader Expr) : Nat → Nat → Expr → Reader Expr
  | 0, _, e => pure e
  | fuel + 1, start, e => do
    if ← skipName "if" then
      let test ← operand
      let no ← if ← skipName "else" then
          let no ← whole
          pure (some no)
        else pure none
      readConditions operand whole fuel (← line) (.cond start test e no)
    else pure e

/-- An expression from signed operands; `depth` bounds the nesting of alternatives. -/
def readConditional (fuel : Nat) (unary : Reader Expr) : Nat → Reader Expr
  | 0 => readDisjunction fuel unary
  | depth + 1 => do
    let start ← line
    let e ← readDisjunction fuel unary
    readConditions (readDisjunction fuel unary) (readConditional fuel unary depth) fuel start e

/-! ### Operands -/

/-- Items up to a closing bracket, with commas between them and perhaps one at the end. -/
def readItems {α : Type} (item : Reader α) (close : Operator) : Nat → Reader (List α)
  | 0 => pure []
  | fuel + 1 => do
    if ← atOperator close then pure []
    else
      let first ← item
      if ← atOperator close then pure [first]
      else
        expectOperator .comma
        pure (first :: (← readItems item close fuel))

/-- A token that ends a tuple without brackets. -/
def endsTuple (keywords : List String) : Option TokenKind → Bool
  | some .printEnd => true
  | some .blockEnd => true
  | some (.operator .rightParen) => true
  | some (.name name) => keywords.contains name
  | _ => false

/-- The items of a tuple: what was read, and whether there was a comma. -/
def readTupleItems (item : Reader Expr) (keywords : List String) :
    Nat → Reader (List Expr × Bool)
  | 0 => pure ([], false)
  | fuel + 1 => do
    if endsTuple keywords (← current) then pure ([], false)
    else
      let first ← item
      if ← skipOperator .comma then
        let (rest, _) ← readTupleItems item keywords fuel
        pure (first :: rest, true)
      else pure ([first], false)

/-- A tuple or, without a comma, a single expression. Only brackets may hold nothing. -/
def readTuple (fuel : Nat) (item : Reader Expr) (keywords : List String) (isBracketed : Bool) :
    Reader Expr := do
  match ← readTupleItems item keywords fuel with
  | ([e], false) => pure e
  | ([], _) => if isBracketed then pure (.tuple []) else fail (.noExpression (← describe))
  | (items, _) => pure (.tuple items)

/-- An entry of a dictionary. -/
def readEntry (expression : Reader Expr) : Reader (Expr × Expr) := do
  let key ← expression
  expectOperator .colon
  let v ← expression
  pure (key, v)

/-- Texts that follow one another are one text. -/
def readTexts : Nat → Reader String
  | 0 => pure ""
  | fuel + 1 => do
    match ← current with
    | some (.string text) =>
      advance
      pure (text ++ (← readTexts fuel))
    | _ => pure ""

/-- An operand without signs, parts and filters. -/
def readPrimary (fuel : Nat) (expression : Reader Expr) : Reader Expr := do
  match ← current with
  | some (.name name) =>
    advance
    if name = "true" || name = "True" then pure (.literal (.bool true))
    else if name = "false" || name = "False" then pure (.literal (.bool false))
    else if name = "none" || name = "None" then pure (.literal .null)
    else pure (.name name)
  | some (.string _) => pure (.literal (.str (← readTexts fuel)))
  | some (.integer n) =>
    advance
    pure (.literal (.int n))
  | some (.real x) =>
    advance
    pure (.literal (.float x))
  | some (.operator .leftParen) =>
    advance
    let e ← readTuple fuel expression [] true
    expectOperator .rightParen
    pure e
  | some (.operator .leftBracket) =>
    advance
    let items ← readItems expression .rightBracket fuel
    expectOperator .rightBracket
    pure (.list items)
  | some (.operator .leftBrace) =>
    advance
    let entries ← readItems (readEntry expression) .rightBrace fuel
    expectOperator .rightBrace
    pure (.dict entries)
  | _ => fail (.unexpected (← describe))

/-- What stands between square brackets: a key or a slice. -/
inductive Subscript where
  | key (e : Expr)
  | slice (start stop step : Option Expr)

/-- A bound of a slice, if one stands at the front. -/
def readBound (expression : Reader Expr) (endsAtColon : Bool) : Reader (Option Expr) := do
  match ← current with
  | some (.operator .rightBracket) => pure none
  | some (.operator .comma) => pure none
  | some (.operator .colon) => if endsAtColon then pure none else pure (some (← expression))
  | _ => pure (some (← expression))

/-- The bounds of a slice behind its first colon. -/
def readSlice (expression : Reader Expr) (start : Option Expr) : Reader Subscript := do
  let stop ← readBound expression true
  let step ← if ← skipOperator .colon then readBound expression false else pure none
  pure (.slice start stop step)

/-- One subscript. -/
def readSubscript (expression : Reader Expr) : Reader Subscript := do
  if ← skipOperator .colon then readSlice expression none
  else
    let e ← expression
    if ← skipOperator .colon then readSlice expression (some e) else pure (.key e)

/-- The key that a subscript is when several of them stand together. -/
def Subscript.expr : Subscript → Expr
  | .key e => e
  | .slice start stop step =>
    .call (.name "slice") ([start, stop, step].map (fun e =>
      (.positional, e.getD (.literal .null))))

/-- A part of a value that is chosen by subscripts. -/
def subscripted (owner : Expr) : List Subscript → Expr
  | [.key e] => .item owner e
  | [.slice start stop step] => .slice owner start stop step
  | subscripts => .item owner (.tuple (subscripts.map Subscript.expr))

/-- Fails unless the arguments so far allow another one here. -/
def ensureCall (isAllowed : Bool) : Reader Unit :=
  if isAllowed then pure () else fail .callForm

/-- One argument of a call, after those before it. -/
def readArgument (expression : Reader Expr) (before : List (ArgumentKind × Expr)) :
    Reader (ArgumentKind × Expr) := do
  let hasSpread := before.any (fun a => a.1 = .spread)
  let hasSpreadNamed := before.any (fun a => a.1 = .spreadNamed)
  let hasNamed := before.any (fun a => match a.1 with | .named _ => true | _ => false)
  match ← current with
  | some (.operator .mul) =>
    ensureCall (!hasSpread && !hasSpreadNamed)
    advance
    pure (.spread, ← expression)
  | some (.operator .pow) =>
    ensureCall (!hasSpreadNamed)
    advance
    pure (.spreadNamed, ← expression)
  | some (.name name) =>
    if ← nextIs (.operator .assign) then
      ensureCall (!hasSpreadNamed)
      advance
      advance
      pure (.named name, ← expression)
    else
      ensureCall (!hasSpread && !hasSpreadNamed && !hasNamed)
      pure (.positional, ← expression)
  | _ =>
    ensureCall (!hasSpread && !hasSpreadNamed && !hasNamed)
    pure (.positional, ← expression)

/-- The arguments of a call up to its closing bracket. -/
def readArguments (expression : Reader Expr) :
    Nat → List (ArgumentKind × Expr) → Reader (List (ArgumentKind × Expr))
  | 0, before => pure before
  | fuel + 1, before => do
    if ← skipOperator .rightParen then pure before
    else
      if before ≠ [] then expectOperator .comma
      if ← skipOperator .rightParen then pure before
      else
        let argument ← readArgument expression before
        readArguments expression fuel (before ++ [argument])

/-- The arguments of a call, whose opening bracket is at the front. -/
def readCall (fuel : Nat) (expression : Reader Expr) : Reader (List (ArgumentKind × Expr)) := do
  advance
  readArguments expression fuel []

/-- Parts, subscripts and calls behind an operand. -/
def readPostfix (expression : Reader Expr) (total : Nat) : Nat → Expr → Reader Expr
  | 0, e => pure e
  | fuel + 1, e => do
    match ← current with
    | some (.operator .dot) =>
      advance
      match ← current with
      | some (.name name) =>
        advance
        readPostfix expression total fuel (.part e name)
      | some (.integer n) =>
        advance
        readPostfix expression total fuel (.item e (.literal (.int n)))
      | _ =>
        advance
        fail .noPart
    | some (.operator .leftBracket) =>
      advance
      let subscripts ← readItems (readSubscript expression) .rightBracket total
      expectOperator .rightBracket
      readPostfix expression total fuel (subscripted e subscripts)
    | some (.operator .leftParen) =>
      let args ← readCall total expression
      readPostfix expression total fuel (.call e args)
    | _ => pure e

/-- A name of several parts. -/
def readDotted (first : String) : Nat → Reader String
  | 0 => pure first
  | fuel + 1 => do
    if ← skipOperator .dot then
      let next ← expectName
      readDotted (first ++ "." ++ next) fuel
    else pure first

/-- The name and the arguments of a filter. -/
def readFilterCall (fuel : Nat) (expression : Reader Expr) : Reader FilterCall := do
  let name ← readDotted (← expectName) fuel
  if ← atOperator .leftParen then
    let args ← readCall fuel expression
    pure (name, args)
  else pure (name, [])

/-- A token that may start the argument of a test that is written without brackets. -/
def startsTestArgument : Option TokenKind → Bool
  | some (.name name) => !(["else", "or", "and"].contains name)
  | some (.string _) => true
  | some (.integer _) => true
  | some (.real _) => true
  | some (.operator .leftParen) => true
  | some (.operator .leftBracket) => true
  | some (.operator .leftBrace) => true
  | _ => false

/-- The test of an operand, behind its first keyword. -/
def readTest (fuel : Nat) (expression : Reader Expr) (e : Expr) : Reader Expr := do
  let isNegated ← skipName "not"
  let name ← readDotted (← expectName) fuel
  let args ←
    if ← atOperator .leftParen then readCall fuel expression
    else if startsTestArgument (← current) then
      if ← atName "is" then fail .chainedTests
      else
        let argument ← readPrimary fuel expression
        let argument ← readPostfix expression fuel fuel argument
        pure [(ArgumentKind.positional, argument)]
    else pure []
  let test := Expr.test e name args
  pure (if isNegated then .not test else test)

/-- Filters, tests and calls behind an operand. -/
def readFilters (expression : Reader Expr) (total : Nat) : Nat → Expr → Reader Expr
  | 0, e => pure e
  | fuel + 1, e => do
    match ← current with
    | some (.operator .pipe) =>
      advance
      let (name, args) ← readFilterCall total expression
      readFilters expression total fuel (.filter e name args)
    | some (.name "is") =>
      advance
      let e ← readTest total expression e
      readFilters expression total fuel e
    | some (.operator .leftParen) =>
      let args ← readCall total expression
      readFilters expression total fuel (.call e args)
    | _ => pure e

/-- An operand with its signs, parts and filters. A filter behind an operand takes its signs along.
    `fuel` bounds the nesting, and `total` the length of each sequence. -/
def readUnary (total : Nat) : Nat → Bool → Reader Expr
  | 0, _ => fail (.unexpected endDescription)
  | fuel + 1, takesFilters => do
    let expression := readConditional total (readUnary total fuel true) total
    let e ← match ← current with
      | some (.operator .sub) =>
        advance
        pure (.neg (← readUnary total fuel false))
      | some (.operator .add) =>
        advance
        pure (.pos (← readUnary total fuel false))
      | _ => readPrimary total expression
    let e ← readPostfix expression total total e
    if takesFilters then readFilters expression total total e else pure e

/-! ### Statements -/

/-- The readers that statements need, for a text of so many tokens. -/
structure Grammar where
  total : Nat

/-- An operand. -/
def Grammar.unary (g : Grammar) : Reader Expr := readUnary g.total (g.total + 1) true

/-- An expression. -/
def Grammar.expression (g : Grammar) : Reader Expr := readConditional g.total g.unary g.total

/-- An expression that is no conditional. -/
def Grammar.disjunction (g : Grammar) : Reader Expr := readDisjunction g.total g.unary

/-- Expressions that may form a tuple without brackets. -/
def Grammar.tuple (g : Grammar) : Reader Expr := readTuple g.total g.expression [] false

/-- The kind of an expression, as a message about targets calls it. -/
def kindName : Expr → String
  | .literal _ => "const"
  | .tuple _ => "tuple"
  | .list _ => "list"
  | .dict _ => "dict"
  | _ => "expr"

mutual

/-- The target that an expression stands for. -/
def targetOf? : Expr → Option Target
  | .name name => some (.name name)
  | .part (.name owner) name => some (.part owner name)
  | .tuple items => (targetsOf? items).map .tuple
  | _ => none

/-- The targets that some expressions stand for. -/
def targetsOf? : List Expr → Option (List Target)
  | [] => some []
  | e :: rest =>
    match targetOf? e, targetsOf? rest with
    | some target, some targets => some (target :: targets)
    | _, _ => none

end

/-- One part of a target. `allowsParts` says that a name with a dot is a part of a value. -/
def Grammar.targetItem (g : Grammar) (allowsParts : Bool) : Reader Expr := do
  match ← readPrimary g.total g.expression with
  | .name name =>
    if allowsParts && (← atOperator .dot) then
      advance
      pure (.part (.name name) (← expectName))
    else pure (.name name)
  | e => pure e

/-- A target, up to one of some keywords. -/
def Grammar.target (g : Grammar) (allowsParts : Bool) (keywords : List String) : Reader Target := do
  let e ← readTuple g.total (g.targetItem allowsParts) keywords false
  match targetOf? e with
  | some target => pure target
  | none => fail (.assignment (kindName e))

/-- A block that is open: its tag, and the tags that may end the part being read. -/
structure OpenBlock where
  tag : String
  ends : List String

/-- The fault for a tag that no statement starts with, or for the end of the text inside a block. -/
def blockFault (tag : Option String) (blocks : List OpenBlock) : SyntaxFault :=
  let isMisplaced := match tag with
    | some name => blocks.any (fun b => b.ends.contains name)
    | none => false
  .block tag isMisplaced ((blocks.head?.map (·.ends)).getD []) (blocks.head?.map (·.tag))

/-- Reads the statements inside a block, up to one of its end tags. -/
abbrev BodyReader := List OpenBlock → Reader (List Stmt)

/-- The part of a block up to one of some tags, behind the tag that starts it. The end tag stays at
    the front. -/
def readPart (body : BodyReader) (blocks : List OpenBlock) (tag : String) (ends : List String) :
    Reader (List Stmt) := do
  let _ ← skipOperator .colon
  expectKind .blockEnd
  let blocks := ⟨tag, ends⟩ :: blocks
  let found ← body blocks
  match ← current with
  | none => fail (blockFault none blocks)
  | some _ => pure found

/-- The branches of a condition, and the part that stands for none of them. -/
def Grammar.branches (g : Grammar) (body : BodyReader) (blocks : List OpenBlock) :
    Nat → Reader (List (Expr × List Stmt) × List Stmt)
  | 0 => pure ([], [])
  | fuel + 1 => do
    let test ← readTuple g.total g.disjunction [] false
    let found ← readPart body blocks "if" ["elif", "else", "endif"]
    if ← skipName "elif" then
      let (rest, otherwise) ← g.branches body blocks fuel
      pure ((test, found) :: rest, otherwise)
    else if ← skipName "else" then
      let otherwise ← readPart body blocks "if" ["endif"]
      advance
      pure ([(test, found)], otherwise)
    else
      advance
      pure ([(test, found)], [])

/-- A loop, behind its keyword. -/
def Grammar.loop (g : Grammar) (body : BodyReader) (blocks : List OpenBlock) : Reader Stmt := do
  let target ← g.target false ["in"]
  expectKeyword "in"
  let items ← readTuple g.total g.disjunction ["recursive"] false
  let condition ← if ← skipName "if" then
      let e ← g.expression
      pure (some e)
    else pure none
  let _ ← skipName "recursive"
  let found ← readPart body blocks "for" ["endfor", "else"]
  if ← skipName "endfor" then pure (.loop target items condition found [])
  else
    advance
    let otherwise ← readPart body blocks "for" ["endfor"]
    advance
    pure (.loop target items condition found otherwise)

/-- Filters one after another. -/
def Grammar.filterCalls (g : Grammar) : Nat → Reader (List FilterCall)
  | 0 => pure []
  | fuel + 1 => do
    if ← skipOperator .pipe then
      let call ← readFilterCall g.total g.expression
      pure (call :: (← g.filterCalls fuel))
    else pure []

/-- An assignment, behind its keyword. -/
def Grammar.assignment (g : Grammar) (body : BodyReader) (blocks : List OpenBlock) :
    Reader Stmt := do
  let target ← g.target true []
  if ← skipOperator .assign then
    pure (.assign target (← g.tuple))
  else
    let filters ← g.filterCalls g.total
    let found ← readPart body blocks "set" ["endset"]
    advance
    pure (.capture target filters found)

/-- The statement at the front. -/
def Grammar.statement (g : Grammar) (body : BodyReader) (blocks : List OpenBlock) :
    Reader Stmt := do
  match ← current with
  | some (.name "if") =>
    advance
    let (branches, otherwise) ← g.branches body blocks (g.total + 1)
    pure (.cond branches otherwise)
  | some (.name "for") =>
    advance
    g.loop body blocks
  | some (.name "set") =>
    advance
    g.assignment body blocks
  | some (.name name) => fail (blockFault (some name) blocks)
  | _ => fail .noTagName

/-- The tag at the front ends the innermost open block. -/
def endsBlock (blocks : List OpenBlock) : Option TokenKind → Bool
  | some (.name name) =>
    match blocks with
    | block :: _ => block.ends.contains name
    | [] => false
  | _ => false

/-- The statements up to an end tag of the innermost open block or to the end of the text. `fuel`
    bounds the number of statements. -/
def readBody (g : Grammar) : Nat → BodyReader
  | 0, _ => pure []
  | fuel + 1, blocks => do
    match ← current with
    | some (.data text) =>
      advance
      pure (.data text :: (← readBody g fuel blocks))
    | some .printBegin =>
      advance
      let e ← g.tuple
      expectKind .printEnd
      pure (.print e :: (← readBody g fuel blocks))
    | some .blockBegin =>
      advance
      if endsBlock blocks (← current) then pure []
      else
        let stmt ← g.statement (readBody g fuel) blocks
        expectKind .blockEnd
        pure (stmt :: (← readBody g fuel blocks))
    | _ => pure []

/-- The tree of some tokens. -/
def readTokens (ts : List Token) : Except SyntaxFault (List Stmt) :=
  match ts with
  | ⟨_, .bad fault⟩ :: _ => .error fault
  | ts =>
    match readBody ⟨ts.length⟩ (ts.length + 1) [] ts with
    | .ok (stmts, _) => .ok stmts
    | .error fault => .error fault

/-- The tree of a template text. -/
def readTemplate (source : List Char) : Except SyntaxFault (List Stmt) := readTokens (tokens source)

end LayeredFiles.Template
