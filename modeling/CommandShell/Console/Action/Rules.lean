import CommandShell.Console.Action.Quotation

/-!
The grammar of values: expressions with every operator, calls, comprehensions and functions without a
name. After the alternatives that a value can have come those that tell what is wrong with it.
-/

namespace CommandShell.Action

/-- The rules of values. -/
inductive Rule where
  | value | fieldValue | expressions | expression | plainExpression | legacyCall | misjoined | yielded
  | starExpressions | starExpression | starNamedExpressions | starNamedExpression | assignment
  | namedExpression | misnamed | disjunction | conjunction | inversion | comparison | relation
  | bitOr | bitXor | bitAnd | shift | sum | term | factor | power | awaited | primary | slices | slice
  | atom | group | misgrouped | function | parameters | parameterList | misparameters
  | misparametersHelper | slashPlain | slashDefault | starParameters | misstarParameters
  | doubleStarParameter | misdoubleStar | plainParameter | defaultParameter | maybeDefaultParameter
  | parameter | default | misdefault | texts | list | tuple | set | dictionary | entries | entry
  | keyValue | misentries | miskeyValue | clauses | clause | mistarget | listOf | setOf | generator
  | dictionaryOf | misclause | misdictionaryClause | arguments | argumentList | misarguments
  | keywordList | keywordOrStar | keywordOrDoubleStar | miskeyword | starredExpression
  | targets | targetsInList | targetsInTuple | target | targetAtom | starAtom | targetPrimary
  | targetAhead
  deriving DecidableEq, Repr

namespace Rule

/-- The name of the kind of a value, as messages say it. -/
def kindName : Tree → String
  | .token token => match token.kind with
    | .name => "name"
    | _ => "literal"
  | .node form _ => match form with
    | .constant name => name
    | .number _ => "literal"
    | .text => "literal"
    | .fieldText => "f-string expression"
    | .tuple => "tuple"
    | .list => "list"
    | .set => "set display"
    | .dictionary => "dict literal"
    | .call => "function call"
    | .member => "attribute"
    | .subscript => "subscript"
    | .starred => "starred"
    | .function => "lambda"
    | .generator => "generator expression"
    | .listOf => "list comprehension"
    | .setOf => "set comprehension"
    | .dictionaryOf => "dict comprehension"
    | .yields => "yield expression"
    | .awaits => "await expression"
    | .comparison => "comparison"
    | .conditional => "conditional expression"
    | .named => "named expression"
    | _ => "expression"

/-- The part of a target to which nothing can be assigned. What a comparison with `in` starts with is a
target. -/
def badTarget? (tree : Tree) : Option Tree :=
  match tree with
  | .token token => if token.kind = .name then none else some tree
  | .node form parts => match form with
    | .list => firstBad parts
    | .tuple => firstBad parts
    | .starred => firstBad parts
    | .comparison => match parts with
      | left :: .node (.relation "in") _ :: _ => badTarget? left
      | _ => none
    | .subscript => none
    | .member => none
    | _ => some tree
where
  /-- The first part that is no target. -/
  firstBad : List Tree → Option Tree
    | [] => none
    | part :: rest => (badTarget? part).orElse fun _ => firstBad rest

/-- Names of calls that were once written without brackets. -/
def isLegacy : Tree → Bool
  | .token token => token.kind = .name && ["print", "exec"].contains (String.ofList token.text)
  | .node .. => false

/-- The text of a tree of one token. -/
def textOf : Tree → String
  | .token token => String.ofList token.text
  | .node .. => ""

/-- Whether a part of arguments has a name or is unpacked with names. -/
def isKeyword : Tree → Bool
  | .node .keyword _ => true
  | .node .keywords _ => true
  | _ => false

/-- Whether a part of arguments is unpacked with names. -/
def isKeywords : Tree → Bool
  | .node .keywords _ => true
  | _ => false

/-- The flaw of arguments after which a value without a name comes. -/
def argumentFlaw (parts : List Tree) : Flaw :=
  if parts.any isKeywords then .valueAfterUnpacking else .valueAfterKeyword

/-- The tree of a number. -/
def numberTree (parts : List Tree) : Except Flaw (List Tree) :=
  let text := (parts.map textOf).flatMap String.toList
  let isImaginary := text.getLast?.any ['j', 'J'].contains
  let digits := text.filter Char.isDigit
  if text.all (fun char => char.isDigit || char == '_') && Literal.digitLimit < digits.length then
    .error (.tooManyDigits digits.length)
  else .ok [.node (.number (isImaginary && !isHexadecimal text)) parts]
where
  /-- Whether a number names base sixteen. -/
  isHexadecimal (text : List Char) : Bool := ((text.drop 1).head?).any ['x', 'X'].contains

/-! ### How rules are written -/

/-- An alternative that keeps its parts. -/
def reads (pieces : List (Piece Rule)) : Alternative Rule := ⟨pieces, .parts, false⟩

/-- An alternative of the second reading that keeps its parts. -/
def lately (pieces : List (Piece Rule)) : Alternative Rule := ⟨pieces, .parts, true⟩

/-- An alternative with its parts under one node. -/
def makes (form : Form) (pieces : List (Piece Rule)) : Alternative Rule := ⟨pieces, .form form, false⟩

/-- An alternative that tells what is wrong. -/
def tells (flaw : Flaw) (pieces : List (Piece Rule)) : Alternative Rule :=
  ⟨pieces, .flaw? fun _ _ => some flaw, true⟩

/-- An alternative that tells what is wrong in the first reading already. -/
def tellsFirst (flaw : Flaw) (pieces : List (Piece Rule)) : Alternative Rule :=
  ⟨pieces, .flaw? fun _ _ => some flaw, false⟩

/-- An alternative that judges what is wrong from its first part. -/
def judges (judge : Tree → Option Flaw) (pieces : List (Piece Rule)) : Alternative Rule :=
  ⟨pieces, .flaw? fun parts _ => parts.head?.bind judge, true⟩

/-- A rule with alternatives. -/
def rule (alternatives : List (Alternative Rule)) : Definition Rule := ⟨alternatives, [], false⟩

/-- A rule that is remembered. -/
def kept (alternatives : List (Alternative Rule)) : Definition Rule := ⟨alternatives, [], true⟩

/-- A rule that goes on after its first alternative as long as a suffix fits. -/
def grows (start : List (Piece Rule)) (suffixes : List (Alternative Rule)) : Definition Rule :=
  ⟨[reads start], suffixes, true⟩

/-- A rule as a piece. -/
def the (name : Rule) : Piece Rule := .rule name

/-- One or more. -/
def atLeastOne (piece : Piece Rule) : Piece Rule := .sequence [piece, .many piece]

/-- One or more with commas between them. -/
def listed (piece : Piece Rule) : Piece Rule :=
  .sequence [piece, .many (.sequence [.fixed ",", piece])]

/-- A value and the same again after a sign, at least once. -/
def chained (sign : String) (name : Rule) : List (Piece Rule) :=
  [the name, atLeastOne (.sequence [.fixed sign, the name])]

/-- One of some signs. -/
def oneOf (signs : List String) : Piece Rule := .choice (signs.map .fixed)

/-- A value that is not given a name. -/
def unnamed : Piece Rule := .sequence [the .expression, .absent (.fixed ":=")]

/-- A value or an assignment. -/
def maybeNamed : Piece Rule := .choice [the .assignment, unnamed]

/-- The optional comma at an end. -/
def lastComma : Piece Rule := .optional (.fixed ",")

/-- The rules with operators between values, the loosest first. -/
def operators (lower : Rule) (signs : List String) : Definition Rule :=
  grows [the lower] (signs.map fun sign => makes (.binary sign) [.fixed sign, the lower])

/-- The flaw of two values side by side, unless the first one is called without brackets, or no bracket is
open. -/
def sideBySide (parts : List Tree) (last : Token) : Option Flaw :=
  if parts.head?.any isLegacy || last.depth == 0 then none else some .missingComma

/-- The flaw of clauses after more than one value. -/
def clausesAfter : Tree → Option Flaw
  | .node _ parts =>
      if (parts.filter (!isKeyword ·)).length ≤ 1 then none else some .openGenerator
  | .token _ => none

/-- What is wrong with an entry whose key is sound. -/
def misentry : List (Alternative Rule) := [
  tellsFirst .starredEntry [the .expression, .fixed ":", .fixed "*", the .bitOr],
  tellsFirst .missingEntry [the .expression, .fixed ":", .ahead (oneOf ["\x7d", ","])]]

/-- How the words begin that open a statement in some places only. -/
def openingWords : List String := ["_", "c", "ca", "cas", "case", "m", "ma", "mat", "matc", "match"]

/-- The parameters before a divider. -/
def beforeDivider : Piece Rule := .choice [the .slashPlain, the .slashDefault]

/-- Parameters with a default or without. -/
def maybeDefaults : Piece Rule := .many (the .maybeDefaultParameter)

/-! ### The rules -/

/-- What each rule reads. `check` finds the flaw of the value in a field. -/
def definition (check : List Char → Option Flaw) : Rule → Definition Rule
  | .value => rule [reads [the .expressions, .many (.kind .newLine), .kind .ending]]
  | .fieldValue => rule [reads [the .starExpressions]]
  | .expressions => rule [
      makes .tuple (chained "," .expression ++ [lastComma]),
      makes .tuple [the .expression, .fixed ","],
      reads [the .expression]]
  | .expression => kept [
      lately [the .misjoined],
      lately [the .legacyCall],
      makes .conditional [the .disjunction, .fixed "if", the .disjunction, .fixed "else", the .expression],
      reads [the .disjunction],
      reads [the .function]]
  | .plainExpression => rule [
      makes .conditional [the .disjunction, .fixed "if", the .disjunction, .fixed "else", the .expression],
      reads [the .disjunction],
      reads [the .function]]
  | .misjoined => rule [
      ⟨[.absent (.choice [.sequence [.kind .name, .kind .quoted], .named openingWords]),
        the .disjunction, .quietly (the .plainExpression)], .flaw? sideBySide, true⟩,
      tells .missingElse [the .disjunction, .fixed "if", the .disjunction, .absent (oneOf ["else", ":"])]]
  | .legacyCall => rule [
      judges (fun name => if isLegacy name then some (.missingBrackets (textOf name)) else none)
        [.kind .name, .absent (.fixed "("), the .starExpressions]]
  | .yielded => rule [
      makes .yields [.fixed "yield", .fixed "from", the .expression],
      makes .yields [.fixed "yield", .optional (the .starExpressions)]]
  | .starExpressions => rule [
      makes .tuple (chained "," .starExpression ++ [lastComma]),
      makes .tuple [the .starExpression, .fixed ","],
      reads [the .starExpression]]
  | .starExpression => kept [makes .starred [.fixed "*", the .bitOr], reads [the .expression]]
  | .starNamedExpressions => rule [reads [listed (the .starNamedExpression), lastComma]]
  | .starNamedExpression => rule [
      makes .starred [.fixed "*", the .bitOr],
      reads [the .namedExpression]]
  | .assignment => rule [makes .named [.kind .name, .fixed ":=", .commit, the .expression]]
  | .namedExpression => rule [reads [the .assignment], lately [the .misnamed], reads [unnamed]]
  | .misnamed => kept [
      judges (fun value => some (.cannotName (kindName value)))
        [the .expression, .fixed ":=", the .expression],
      tells .assignment [.kind .name, .fixed "=", the .bitOr, .absent (oneOf ["=", ":="])],
      judges (fun value => some (.cannotAssignHere (kindName value)))
        [.absent (.choice [the .list, the .tuple, the .generator, oneOf ["True", "None", "False"]]),
          the .bitOr, .fixed "=", the .bitOr, .absent (oneOf ["=", ":="])]]
  | .disjunction => kept [makes .joined (chained "or" .conjunction), reads [the .conjunction]]
  | .conjunction => kept [makes .joined (chained "and" .inversion), reads [the .inversion]]
  | .inversion => kept [makes (.unary "not") [.fixed "not", the .inversion], reads [the .comparison]]
  | .comparison => rule [
      makes .comparison [the .bitOr, atLeastOne (the .relation)],
      reads [the .bitOr]]
  | .relation => rule [
      makes (.relation "==") [.fixed "==", the .bitOr],
      makes (.relation "!=") [.fixed "!=", the .bitOr],
      makes (.relation "<=") [.fixed "<=", the .bitOr],
      makes (.relation "<") [.fixed "<", the .bitOr],
      makes (.relation ">=") [.fixed ">=", the .bitOr],
      makes (.relation ">") [.fixed ">", the .bitOr],
      makes (.relation "not in") [.fixed "not", .fixed "in", the .bitOr],
      makes (.relation "in") [.fixed "in", the .bitOr],
      makes (.relation "is not") [.fixed "is", .fixed "not", the .bitOr],
      makes (.relation "is") [.fixed "is", the .bitOr]]
  | .bitOr => operators .bitXor ["|"]
  | .bitXor => operators .bitAnd ["^"]
  | .bitAnd => operators .shift ["&"]
  | .shift => operators .sum ["<<", ">>"]
  | .sum => operators .term ["+", "-"]
  | .term => operators .factor ["*", "/", "//", "%", "@"]
  | .factor => kept [
      makes (.unary "+") [.fixed "+", the .factor],
      makes (.unary "-") [.fixed "-", the .factor],
      makes (.unary "~") [.fixed "~", the .factor],
      reads [the .power]]
  | .power => rule [
      makes (.binary "**") [the .awaited, .fixed "**", the .factor],
      reads [the .awaited]]
  | .awaited => kept [makes .awaits [.fixed "await", the .primary], reads [the .primary]]
  | .primary => grows [the .atom] [
      makes .member [.fixed ".", .kind .name],
      makes .call [the .generator],
      makes .call [.fixed "(", .optional (the .arguments), .fixed ")"],
      makes .subscript [.fixed "[", the .slices, .fixed "]"]]
  | .slices => rule [
      reads [the .slice, .absent (.fixed ",")],
      makes .tuple [listed (.choice [the .slice, the .starredExpression]), lastComma]]
  | .slice => rule [
      makes .group [.optional (the .expression), .fixed ":", .optional (the .expression),
        .optional (.sequence [.fixed ":", .optional (the .expression)])],
      reads [the .namedExpression]]
  | .atom => rule [
      reads [.kind .name],
      makes (.constant "True") [.fixed "True"],
      makes (.constant "False") [.fixed "False"],
      makes (.constant "None") [.fixed "None"],
      reads [.ahead (.kind .quoted), the .texts],
      ⟨[.kind .number], .check numberTree, false⟩,
      reads [.ahead (.fixed "("), .choice [the .tuple, the .group, the .generator]],
      reads [.ahead (.fixed "["), .choice [the .list, the .listOf]],
      reads [.ahead (.fixed "\x7b"),
        .choice [the .dictionary, the .set, the .dictionaryOf, the .setOf]],
      makes (.constant "ellipsis") [.fixed "..."]]
  | .group => rule [
      reads [.fixed "(", .choice [the .yielded, the .namedExpression], .fixed ")"],
      lately [the .misgrouped]]
  | .misgrouped => rule [
      tells .starred [.fixed "(", the .starredExpression, .fixed ")"],
      tells .doubleStarred [.fixed "(", .fixed "**", the .expression, .fixed ")"]]
  | .function => rule [
      makes .function [.fixed "lambda", .optional (the .parameters), .fixed ":", the .expression]]
  | .parameters => rule [lately [the .misparameters], reads [the .parameterList]]
  | .parameterList => rule [
      reads [the .slashPlain, .many (the .plainParameter), .many (the .defaultParameter),
        .optional (the .starParameters)],
      reads [the .slashDefault, .many (the .defaultParameter), .optional (the .starParameters)],
      reads [atLeastOne (the .plainParameter), .many (the .defaultParameter),
        .optional (the .starParameters)],
      reads [atLeastOne (the .defaultParameter), .optional (the .starParameters)],
      reads [the .starParameters]]
  | .misparameters => rule [
      tells .defaultBeforeParameter [.many (the .plainParameter), the .misparametersHelper,
        the .plainParameter],
      tells .bracketedParameters [.many (the .plainParameter), .fixed "(", listed (the .parameter),
        lastComma, .fixed ")"],
      tells .leadingDivider [.fixed "/", .fixed ","],
      tells .repeatedDivider [beforeDivider, maybeDefaults, .fixed "/"],
      tells .lateDivider [.optional beforeDivider, maybeDefaults, .fixed "*",
        .choice [.fixed ",", the .plainParameter], maybeDefaults, .fixed "/"],
      tells .missingDividerComma [atLeastOne (the .maybeDefaultParameter), .fixed "/", .fixed "*"]]
  | .misparametersHelper => rule [
      reads [the .slashDefault],
      reads [atLeastOne (the .defaultParameter)]]
  | .slashPlain => rule [
      reads [atLeastOne (the .plainParameter), .fixed "/", .fixed ","],
      reads [atLeastOne (the .plainParameter), .fixed "/", .ahead (.fixed ":")]]
  | .slashDefault => rule [
      reads [.many (the .plainParameter), atLeastOne (the .defaultParameter), .fixed "/", .fixed ","],
      reads [.many (the .plainParameter), atLeastOne (the .defaultParameter), .fixed "/",
        .ahead (.fixed ":")]]
  | .starParameters => rule [
      lately [the .misstarParameters],
      reads [.fixed "*", the .plainParameter, maybeDefaults, .optional (the .doubleStarParameter)],
      reads [.fixed "*", .fixed ",", atLeastOne (the .maybeDefaultParameter),
        .optional (the .doubleStarParameter)],
      reads [the .doubleStarParameter]]
  | .misstarParameters => rule [
      tells .bareStar [.fixed "*",
        .choice [.fixed ":", .sequence [.fixed ",", oneOf [":", "**"]]]],
      tells .starDefault [.fixed "*", the .parameter, .fixed "="],
      tells .repeatedStar [.fixed "*", .choice [the .plainParameter, .fixed ","], maybeDefaults,
        .fixed "*", .choice [the .plainParameter, .fixed ","]]]
  | .doubleStarParameter => rule [
      lately [the .misdoubleStar],
      reads [.fixed "**", the .plainParameter]]
  | .misdoubleStar => rule [
      tells .doubleStarDefault [.fixed "**", the .parameter, .fixed "="],
      tells .afterDoubleStar [.fixed "**", the .parameter, .fixed ",", the .parameter],
      tells .afterDoubleStar [.fixed "**", the .parameter, .fixed ",", oneOf ["*", "**", "/"]]]
  | .plainParameter => rule [
      reads [the .parameter, .fixed ","],
      reads [the .parameter, .ahead (.fixed ":")]]
  | .defaultParameter => rule [
      reads [the .parameter, the .default, .fixed ","],
      reads [the .parameter, the .default, .ahead (.fixed ":")]]
  | .maybeDefaultParameter => rule [
      reads [the .parameter, .optional (the .default), .fixed ","],
      reads [the .parameter, .optional (the .default), .ahead (.fixed ":")]]
  | .parameter => rule [reads [.kind .name]]
  | .default => rule [reads [.fixed "=", the .expression], lately [the .misdefault]]
  | .misdefault => rule [tells .missingDefault [.fixed "=", .ahead (oneOf [")", ","])]]
  | .texts => kept [⟨[atLeastOne (.kind .quoted)], .check (textTree check), false⟩]
  | .list => rule [makes .list [.fixed "[", .optional (the .starNamedExpressions), .fixed "]"]]
  | .tuple => rule [makes .tuple [.fixed "(",
      .optional (.sequence [the .starNamedExpression, .fixed ",",
        .optional (the .starNamedExpressions)]), .fixed ")"]]
  | .set => rule [makes .set [.fixed "\x7b", the .starNamedExpressions, .fixed "\x7d"]]
  | .dictionary => rule [
      makes .dictionary [.fixed "\x7b", .optional (the .entries), .fixed "\x7d"],
      reads [.fixed "\x7b", the .misentries, .fixed "\x7d"]]
  | .entries => rule [reads [listed (the .entry), lastComma]]
  | .entry => rule [makes .spread [.fixed "**", the .bitOr], reads [the .keyValue]]
  | .keyValue => rule [makes .entry [the .expression, .fixed ":", the .expression]]
  | .misentries => rule ([reads [listed (the .entry), .fixed ",", the .miskeyValue]] ++ misentry)
  | .miskeyValue => rule
      ([tellsFirst .missingColon [the .expression, .absent (.fixed ":")]] ++ misentry)
  | .clauses => rule [makes .group [atLeastOne (the .clause)]]
  | .clause => rule [
      reads [.fixed "async", .fixed "for", the .targets, .fixed "in", .commit, the .disjunction,
        .many (.sequence [.fixed "if", the .disjunction])],
      reads [.fixed "for", the .targets, .fixed "in", .commit, the .disjunction,
        .many (.sequence [.fixed "if", the .disjunction])],
      lately [the .mistarget]]
  | .mistarget => rule [
      judges (fun targets => (badTarget? targets).map fun bad => .cannotAssign (kindName bad))
        [.optional (.fixed "async"), .fixed "for", the .starExpressions]]
  | .listOf => rule [
      makes .listOf [.fixed "[", the .namedExpression, the .clauses, .fixed "]"],
      lately [the .misclause]]
  | .setOf => rule [
      makes .setOf [.fixed "\x7b", the .namedExpression, the .clauses, .fixed "\x7d"],
      lately [the .misclause]]
  | .generator => rule [
      makes .generator [.fixed "(", maybeNamed, the .clauses, .fixed ")"],
      lately [the .misclause]]
  | .dictionaryOf => rule [
      makes .dictionaryOf [.fixed "\x7b", the .keyValue, the .clauses, .fixed "\x7d"],
      lately [the .misdictionaryClause]]
  | .misclause => rule [
      tells .starredClause [oneOf ["[", "(", "\x7b"], the .starredExpression, the .clauses],
      tells .openClause [oneOf ["[", "\x7b"], the .starNamedExpression, .fixed ",",
        the .starNamedExpressions, the .clauses],
      tells .openClause [oneOf ["[", "\x7b"], the .starNamedExpression, .fixed ",", the .clauses]]
  | .misdictionaryClause => rule [
      tells .doubleStarredClause [.fixed "\x7b", .fixed "**", the .bitOr, the .clauses, .fixed "\x7d"]]
  | .arguments => kept [
      reads [the .argumentList, lastComma, .ahead (.fixed ")")],
      lately [the .misarguments]]
  | .argumentList => rule [
      makes .arguments [
        listed (.choice [the .starredExpression, .sequence [maybeNamed, .absent (.fixed "=")]]),
        .optional (.sequence [.fixed ",", the .keywordList])],
      makes .arguments [the .keywordList]]
  | .misarguments => rule [
      tells .unpackingAfterUnpacking [the .argumentList, .fixed ",", .fixed "*"],
      tells .openGenerator [the .expression, the .clauses, .fixed ",",
        .optional (.choice [the .argumentList, .sequence [the .expression, the .clauses]])],
      tells .assignment [.kind .name, .fixed "=", the .expression, the .clauses],
      judges clausesAfter [the .argumentList, the .clauses],
      tells .openGenerator [the .argumentList, .fixed ",", the .expression, the .clauses],
      judges (fun list => match list with
        | .node _ parts => some (argumentFlaw parts)
        | .token _ => none) [the .argumentList, .fixed ",", the .argumentList]]
  | .keywordList => rule [
      reads [listed (the .keywordOrStar), .fixed ",", listed (the .keywordOrDoubleStar)],
      reads [listed (the .keywordOrStar)],
      reads [listed (the .keywordOrDoubleStar)]]
  | .keywordOrStar => rule [
      lately [the .miskeyword],
      makes .keyword [.kind .name, .fixed "=", the .expression],
      reads [the .starredExpression]]
  | .keywordOrDoubleStar => rule [
      lately [the .miskeyword],
      makes .keyword [.kind .name, .fixed "=", the .expression],
      makes .keywords [.fixed "**", the .expression]]
  | .miskeyword => rule [
      tells (.cannotAssign "True") [.fixed "True", .fixed "="],
      tells (.cannotAssign "False") [.fixed "False", .fixed "="],
      tells (.cannotAssign "None") [.fixed "None", .fixed "="],
      tells .assignment [.kind .name, .fixed "=", the .expression, the .clauses],
      tells .keywordTarget [.absent (.sequence [.kind .name, .fixed "="]), the .expression, .fixed "="]]
  | .starredExpression => rule [makes .starred [.fixed "*", the .expression]]
  | .targets => rule [
      reads [the .target, .absent (.fixed ",")],
      makes .tuple [the .target, .many (.sequence [.fixed ",", the .target]), lastComma]]
  | .targetsInList => rule [reads [listed (the .target), lastComma]]
  | .targetsInTuple => rule [
      reads (chained "," .target ++ [lastComma]),
      reads [the .target, .fixed ","]]
  | .target => kept [
      makes .starred [.fixed "*", .sequence [.absent (.fixed "*"), the .target]],
      reads [the .targetAtom]]
  | .targetAtom => kept [
      makes .member [the .targetPrimary, .fixed ".", .kind .name, .absent (the .targetAhead)],
      makes .subscript [the .targetPrimary, .fixed "[", the .slices, .fixed "]",
        .absent (the .targetAhead)],
      reads [the .starAtom]]
  | .starAtom => rule [
      reads [.kind .name],
      reads [.fixed "(", the .targetAtom, .fixed ")"],
      makes .tuple [.fixed "(", .optional (the .targetsInTuple), .fixed ")"],
      makes .list [.fixed "[", .optional (the .targetsInList), .fixed "]"]]
  | .targetPrimary => grows [the .atom, .ahead (the .targetAhead)] [
      makes .member [.fixed ".", .kind .name, .ahead (the .targetAhead)],
      makes .subscript [.fixed "[", the .slices, .fixed "]", .ahead (the .targetAhead)],
      makes .call [the .generator, .ahead (the .targetAhead)],
      makes .call [.fixed "(", .optional (the .arguments), .fixed ")", .ahead (the .targetAhead)]]
  | .targetAhead => rule [reads [oneOf ["(", "[", "."]]]

end Rule

/-- The flaw of the value in a field. Fields can be inside each other, `steps` deep. -/
def fieldFlaw? : Nat → List Char → Option Flaw
  | 0, _ => none
  | steps + 1, text =>
      match Grammar.parse (Rule.definition (fieldFlaw? steps)) .fieldValue .embedded text with
      | .ok _ => none
      | .error flaw => some flaw

/-- The tree of a text that is a value. -/
def parseValue (text : List Char) : Except Flaw (List Tree) :=
  Grammar.parse (Rule.definition (fieldFlaw? text.length)) .value id text

end CommandShell.Action
