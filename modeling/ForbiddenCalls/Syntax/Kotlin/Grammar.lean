import ForbiddenCalls.Syntax.Grammar.Repair
import ForbiddenCalls.Syntax.Kotlin.Lexis

/-!
# The grammar of Kotlin

The phrases that a Kotlin file is made of.  A line break ends a statement or a member
wherever it can, but not in parentheses, so every phrase that goes on behind a complete
expression asks first that no line has ended there.

An operator in front of an expression binds tighter than a selection behind it.  A
property that is followed by the word for one of its accessors has that accessor.
-/

namespace ForbiddenCalls.Kotlin

open Phrase

/-- The symbols of the grammar. -/
inductive Symbol where
  | packageHeader
  | importHeader
  | fileNote
  | statement
  | statements
  | block
  | body
  | declaration
  | property
  | accessor
  | member
  | members
  | modifiers
  | note
  | typeParameters
  | typeConstraints
  | specifiers
  | parameters
  | functionBody
  | variable
  | variableTuple
  | type
  | plainType
  | userType
  | receiver
  | typeArguments
  | expression
  | conjunction
  | equality
  | comparison
  | test
  | elvis
  | infixCall
  | range
  | sum
  | product
  | conversion
  | selection
  | operand
  | primary
  | literals
  | conditional
  | cases
  | attempt
  | jump
  | lambda
  | arguments
  deriving DecidableEq, Repr

instance : Coe Symbol (Phrase Symbol) := ⟨.symbol⟩

namespace Grammar

/-- A phrase of this grammar. -/
abbrev P := Phrase Symbol

/-- An identifier. -/
def id : P := name "identifier"

/-- An identifier that is the name of what surrounds it. -/
def itsName : P := .field .name id

/-- A phrase in braces, in which line breaks count. -/
def braced (a : P) : P := seqs ["\x7b", .grouped false a, "\x7d"]

/-- A phrase in parentheses, in which they do not. -/
def inParens (a : P) : P := seqs ["(", .grouped true a, ")"]

/-- A list with commas that may be empty and may end with a comma. -/
def commaList (a : P) : P := .seq (opt (separated a ",")) (opt ",")

/-- Annotations, or none. -/
def notes : P := .many Symbol.note

/-- Modifiers, or none. -/
def modified : P := opt Symbol.modifiers

/-- A type behind a colon. -/
def typed : P := .seq ":" Symbol.type

/-- The ends of statements, one or more. -/
def separators : P := .seq .separator (.many .separator)

/-- Goes on behind an expression on the same line. -/
def further (kind : String) (parts : List P) : P :=
  .around kind none (seqs (.sameLine :: parts))

/-- Operands of one kind with operators between them. -/
def leveled (kind : String) (operand : P) (operators : List P) : P :=
  .seq operand (.many (further kind [alts operators, operand]))

/-- Signs and words that are one sign if no blank is between them. -/
def joined (parts : List String) : P := .glued (.plain ("".intercalate parts)) parts

/-- The sign of a call that is left out for `null`. -/
def safely : P := joined ["?", "."]

/-! ## The head of a file -/

/-- A dotted name. -/
def qualifiedName : P := .node "qualified_identifier" (.seq id (.many (.seq "." id)))

/-- The statement of the package. -/
def packageHeader : P := .seq (.node "package_header" (.seq "package" qualifiedName)) separators

/-- The statement of an import. -/
def importHeader : P :=
  .seq (.node "import" (seqs ["import", qualifiedName,
    opt (alts [.seq "." "*", .seq "as" id])])) separators

/-- The call of the constructor of a superclass or of an annotation. -/
def constructed : P := .node "constructor_invocation" (.seq Symbol.userType Symbol.arguments)

/-- An annotation of the file. -/
def fileNote : P :=
  .node "file_annotation" (seqs ["@", "file", ":", alts [constructed, Symbol.userType]])

/-! ## Types -/

/-- The name of a type, with the arguments of each of its parts. -/
def userType : P :=
  let part := .seq id (opt Symbol.typeArguments)
  let modifiers := .node "type_modifiers" (repeated (alts [Symbol.note, "suspend"]))
  .node "user_type" (seqs [opt modifiers, part, .many (.seq "." part)])

/-- The type in front of the name of an extension. -/
def receiver : P :=
  let part := .seq id (opt Symbol.typeArguments)
  let isInner := .ahead (alts [".", "?"])
  let plain := .node "user_type" (.seq part (.many (seqs [".", part, isInner])))
  seqs [alts [.node "parenthesized_type" (inParens Symbol.type), plain],
    .many (.around "nullable_type" none "?"), "."]

/-- A type that is no type of functions. -/
def plainType : P :=
  let base := alts [.seq "dynamic" (.absent "."), Symbol.userType,
    .node "parenthesized_type" (inParens Symbol.type)]
  seqs [base, .many (.around "nullable_type" none "?"),
    opt (.around "non_nullable_type" none (.seq "&" Symbol.type))]

/-- What follows the receiver of a type of functions. -/
def functionShape : P :=
  let parameter := .node "parameter" (.seq id typed)
  let parameters := .node "function_type_parameters"
    (inParens (commaList (alts [parameter, Symbol.type])))
  seqs [parameters, "->", Symbol.type]

/-- A type of functions, with or without a receiver, or another type. -/
def type : P :=
  let modifiers := .node "type_modifiers" "suspend"
  alts [.node "function_type" (.seq (opt modifiers) functionShape),
    .seq Symbol.plainType (opt (.around "function_type" none (.seq "." functionShape)))]

/-- The arguments of a generic type or of a call. -/
def typeArguments : P :=
  let variance := .node "variance_modifier" (alts ["in", "out"])
  let projection := .node "type_projection" (alts [.seq (.many variance) Symbol.type, "*"])
  .node "type_arguments" (seqs ["<", commaList projection, ">"])

/-- The type parameters of a declaration. -/
def typeParameters : P :=
  let modifiers := .node "type_parameter_modifiers" (repeated (alts [Symbol.note,
    .node "reification_modifier" "reified", .node "variance_modifier" (alts ["in", "out"])]))
  let parameter := .node "type_parameter" (alts [seqs [modifiers, id, opt typed],
    .seq id (opt typed)])
  .node "type_parameters" (seqs ["<", commaList parameter, ">"])

/-- Conditions on type parameters. -/
def typeConstraints : P :=
  let constraint := .node "type_constraint" (seqs [notes, id, typed])
  .node "type_constraints" (.seq "where" (separated constraint ","))

/-! ## Declarations -/

/-- An annotation. -/
def note : P :=
  let sites : List P := ["field", "property", "get", "set", "receiver", "param", "setparam",
    "delegate", "file"]
  let site := .node "use_site_target" (.seq (alts sites) ":")
  .node "annotation" (seqs ["@", opt site, alts [constructed, Symbol.userType]])

/-- Modifiers of one kind. -/
def modifierKind (kind : String) (words : List String) : P :=
  .node kind (.seq (alts (words.map sign)) (.absent (alts [":", ",", ")", "=", "."])))

/-- The kinds of modifiers whose words are no identifiers where a modifier can stand. -/
def strictModifiers : List P :=
  [modifierKind "class_modifier" ["enum", "sealed", "annotation"],
    modifierKind "member_modifier" ["override", "lateinit"],
    modifierKind "visibility_modifier" ["public", "private", "internal", "protected"],
    modifierKind "function_modifier" ["tailrec", "operator", "infix", "inline", "external",
      "suspend"],
    modifierKind "property_modifier" ["const"],
    modifierKind "inheritance_modifier" ["abstract", "final", "open"],
    modifierKind "parameter_modifier" ["vararg", "noinline", "crossinline"]]

/-- The kinds of modifiers whose words are identifiers too. -/
def softModifiers : List P :=
  [modifierKind "class_modifier" ["data", "inner", "value"],
    modifierKind "platform_modifier" ["expect", "actual"]]

/-- The modifiers of a declaration. -/
def modifierList : P :=
  .node "modifiers" (repeated (alts (.symbol .note :: strictModifiers ++ softModifiers)))

/-- A variable, with its type if that is written. -/
def oneVariable : P := .node "variable_declaration" (seqs [notes, id, opt typed])

/-- Several variables that a value is taken apart into. -/
def variableTuple : P :=
  .node "multi_variable_declaration" (inParens (.seq (separated Symbol.variable ",") (opt ",")))

/-- The getter or the setter of a property. -/
def accessor : P :=
  let ending := .seq (opt typed) Symbol.functionBody
  alts [
    .node "getter" (seqs [modified, "get", opt (seqs ["(", ")", ending])]),
    .node "setter" (seqs [modified, "set",
      opt (seqs [inParens (.seq id (opt typed)), ending])])]

/-- A property.  Where the word for an accessor follows it, an accessor must. -/
def property : P :=
  let start := opt .separator
  let accessors := whenever (seqs [start, modified, alts ["get", "set"]])
    (.seq start Symbol.accessor)
  let delegate := .node "property_delegate" (.seq "by" Symbol.expression)
  .node "property_declaration" (seqs [modified, alts ["val", "var"], opt Symbol.typeParameters,
    opt Symbol.receiver, alts [Symbol.variable, Symbol.variableTuple], opt Symbol.typeConstraints,
    opt (alts [.seq "=" Symbol.expression, delegate]), accessors, accessors])

/-- The parameters of a function with their modifiers and defaults. -/
def parameters : P :=
  let words := .node "parameter_modifier" (alts ["vararg", "noinline", "crossinline"])
  let modifiers := .node "parameter_modifiers" (repeated (alts [Symbol.note, words]))
  let parameter := .node "parameter" (.seq id typed)
  .node "function_value_parameters" (inParens (commaList
    (seqs [opt modifiers, parameter, opt (.seq "=" Symbol.expression)])))

/-- The parameters of the constructor that a class states behind its name. -/
def primaryConstructor : P :=
  let stated := seqs [opt (alts ["val", "var"]), id, typed, opt (.seq "=" Symbol.expression)]
  let parameter := .node "class_parameter" (alts [.seq Symbol.modifiers stated, stated])
  .node "primary_constructor" (.seq (opt (.seq modified "constructor"))
    (.node "class_parameters" (inParens (commaList parameter))))

/-- What a class is derived from. -/
def specifiers : P :=
  let delegation := .node "explicit_delegation" (seqs [Symbol.type, "by", Symbol.expression])
  let specifier := .node "delegation_specifier"
    (alts [constructed, delegation, Symbol.type])
  .seq ":" (.node "delegation_specifiers" (separated specifier ","))

/-- The members of a class in braces. -/
def classBody : P := .node "class_body" (braced Symbol.members)

/-- The members of an enumeration in braces, its constants first. -/
def enumBody : P :=
  let entry := .node "enum_entry" (seqs [modified, id, opt Symbol.arguments, opt classBody])
  .node "enum_class_body" (braced (.seq (commaList entry) (opt (.seq (unseen ";") Symbol.members))))

/-- The declaration of a class or of an interface. -/
def classDeclaration : P :=
  let head := seqs [modified, alts ["class", .seq (opt "fun") "interface"], itsName,
    opt Symbol.typeParameters, opt primaryConstructor, opt Symbol.specifiers,
    opt Symbol.typeConstraints]
  let isEnum := .ahead (.seq (.many (alts (.symbol .note :: strictModifiers.drop 1))) "enum")
  .node "class_declaration" (alts [seqs [isEnum, head, opt enumBody], .seq head (opt classBody)])

/-- A declaration. -/
def declaration : P :=
  alts [classDeclaration,
    .node "object_declaration" (seqs [modified, "object", itsName, opt Symbol.specifiers,
      opt classBody]),
    .node "function_declaration" (seqs [modified, "fun", opt Symbol.typeParameters,
      opt Symbol.receiver, itsName, Symbol.parameters, opt typed, opt Symbol.typeConstraints,
      opt Symbol.functionBody]),
    Symbol.property,
    .node "type_alias" (seqs [modified, "typealias", .field .type id, opt Symbol.typeParameters,
      "=", Symbol.type])]

/-- A member of a class. -/
def member : P :=
  let called := .node "constructor_delegation_call"
    (.seq (alts ["this", "super"]) Symbol.arguments)
  alts [
    .node "companion_object" (seqs [modified, "companion", "object", opt (.seq .sameLine itsName),
      opt Symbol.specifiers, opt classBody]),
    .node "anonymous_initializer" (.seq "init" Symbol.block),
    .node "secondary_constructor" (seqs [modified, "constructor", Symbol.parameters,
      opt (.seq ":" called), opt Symbol.block]),
    Symbol.declaration]

/-! ## Statements -/

/-- A loop. -/
def loop : P :=
  let condition := inParens Symbol.expression
  alts [
    .node "for_statement" (seqs ["for", inParens (seqs [notes,
      alts [Symbol.variable, Symbol.variableTuple], "in", Symbol.expression]), opt Symbol.body]),
    .node "while_statement" (seqs ["while", condition, opt Symbol.body]),
    .node "do_while_statement" (seqs ["do", opt Symbol.body, "while", condition])]

/-- A statement.  What starts with the word of a modifier is a declaration, unless the
word can be an identifier as well. -/
def statement : P :=
  let operators := alts ["=", "+=", "-=", "*=", "/=", "%="]
  let labelledLoop := .node "labeled_expression" (.seq (literal "label") loop)
  alts [Symbol.declaration, loop, labelledLoop, seqs [.absent (alts strictModifiers), Symbol.expression,
    opt (further "assignment" [operators, Symbol.expression])]]

/-- Statements with ends between them. -/
def statements : P :=
  .seq (.many .separator)
    (.many (.seq Symbol.statement (alts [separators, .ahead (sign "\x7d")])))

/-! ## Expressions -/

/-- Values that are tested for what they are or where they belong. -/
def test : P :=
  let negated (word : String) := joined ["!", word]
  .seq Symbol.elvis (.many (alts [
    further "in_expression" [alts ["in", negated "in"], Symbol.elvis],
    further "is_expression" [alts ["is", negated "is"], Symbol.type]]))

/-- Values that are compared. -/
def comparison : P :=
  leveled "binary_expression" Symbol.test ["<=", "<", joined [">", "="], ">"]

/-- A value as one of a type. -/
def conversion : P :=
  .seq Symbol.selection
    (.many (further "as_expression" [alts [joined ["as", "?"], "as"], Symbol.type]))

/-- A function in braces. -/
def lambda : P :=
  let parameters := .node "lambda_parameters"
    (separated (alts [Symbol.variable, .seq Symbol.variableTuple (opt typed)]) ",")
  .node "lambda_literal" (braced (.seq (opt (.seq (opt parameters) "->")) Symbol.statements))

/-- A function in braces as an argument behind the others. -/
def trailing : P :=
  .node "annotated_lambda" (seqs [notes, opt (literal "label"), Symbol.lambda])

/-- A chain of selections and calls. -/
def selection : P :=
  let selected := alts [id, keyword "identifier" "class"]
  .seq Symbol.operand (.many (alts [
    further "call_expression" [opt Symbol.typeArguments, Symbol.arguments],
    further "call_expression" [opt Symbol.typeArguments, trailing],
    further "index_expression" ["[", .grouped true (separated Symbol.expression ","), "]"],
    further "navigation_expression" [alts [".", safely, "::"], selected],
    further "unary_expression" [alts ["!!", "++", "--"]]]))

/-- What a chain of selections applies to. -/
def operand : P :=
  alts [
    .node "unary_expression" (.seq (alts ["++", "--", "+", "-", "!"]) Symbol.operand),
    .node "labeled_expression" (.seq (literal "label") Symbol.expression),
    .node "annotated_expression" (.seq Symbol.note Symbol.operand),
    Symbol.primary]

/-- An argument in parentheses. -/
def arguments : P :=
  let spread := .node "spread_expression" (.seq "*" Symbol.expression)
  let argument := .node "value_argument" (seqs [notes, opt (.seq id "="),
    alts [spread, Symbol.expression]])
  .node "value_arguments" (inParens (commaList argument))

/-- A literal, with the expressions in a string. -/
def literals : P :=
  let hole := .node "interpolation" (seqs ["$\x7b", .grouped true Symbol.expression, "\x7d"])
  let content := .many (alts [literal "string_content", literal "escape_sequence", hole])
  alts [literal "number_literal", literal "float_literal",
    .node "string_literal" (seqs ["\"", content, "\""]),
    .node "multiline_string_literal" (seqs ["\"\"\"", content, "\"\"\""]),
    .node "character_literal" (seqs ["'", .token (.literal "character") .hidden, "'"])]

/-- A choice between two bodies. -/
def conditional : P :=
  .node "if_expression" (seqs ["if", inParens Symbol.expression,
    opt (.seq (.absent "else") Symbol.body),
    opt (seqs [opt (unseen ";"), "else", Symbol.body])])

/-- A choice between several bodies. -/
def cases : P :=
  let subject := .node "when_subject" (inParens
    (.seq (opt (seqs ["val", Symbol.variable, "="])) Symbol.expression))
  let condition := alts [
    .node "range_test" (.seq (alts ["in", joined ["!", "in"]]) Symbol.expression),
    .node "type_test" (.seq (alts ["is", joined ["!", "is"]]) Symbol.type),
    Symbol.expression]
  let entry := .node "when_entry" (seqs [alts ["else", commaList condition], "->",
    Symbol.body, opt .separator])
  .node "when_expression" (seqs ["when", opt subject,
    braced (.seq (.many .separator) (.many (.seq entry (.many .separator))))])

/-- A block that is tried. -/
def attempt : P :=
  let handler := .node "catch_block" (seqs ["catch",
    inParens (seqs [notes, id, typed, opt ","]), Symbol.block])
  .node "try_expression" (seqs ["try", Symbol.block, .many handler,
    opt (.node "finally_block" (.seq "finally" Symbol.block))])

/-- An expression that leaves what it stands in. -/
def jump : P :=
  let labelled (word : String) := alts [.seq (joined [word, "@"]) id, word]
  let value := opt (.seq .sameLine Symbol.expression)
  alts [.node "return_expression" (.seq (labelled "return") value),
    .node "throw_expression" (.seq "throw" Symbol.expression),
    .node "break_expression" (labelled "break"),
    .node "continue_expression" (labelled "continue")]

/-- An expression that nothing binds tighter than. -/
def primary : P :=
  let bound := opt (seqs ["<", Symbol.type, ">"])
  let labelled (word : String) := alts [.seq (joined [word, "@"]) id, word]
  alts [.node "parenthesized_expression" (inParens Symbol.expression),
    .node "this_expression" (labelled "this"),
    .node "super_expression" (alts [.seq (joined ["super", "@"]) id, .seq "super" bound]),
    Symbol.literals, Symbol.lambda, Symbol.conditional, Symbol.cases, Symbol.attempt,
    Symbol.jump,
    .node "object_literal" (seqs ["object", opt Symbol.specifiers, classBody]),
    .node "anonymous_function" (seqs ["fun", opt Symbol.receiver, Symbol.parameters, opt typed,
      opt Symbol.functionBody]),
    .node "callable_reference" (.seq "::" (alts [id, "class"])),
    .node "collection_literal" (seqs ["[", .grouped true (commaList Symbol.expression), "]"]),
    id]

/-! ## The phrases of the symbols -/

/-- The phrase of a symbol. -/
def phrase : Symbol → P
  | .packageHeader => packageHeader
  | .importHeader => importHeader
  | .fileNote => .seq fileNote (.many .separator)
  | .statement => statement
  | .statements => statements
  | .block => .node "block" (braced Symbol.statements)
  | .body => alts [Symbol.block, Symbol.statement]
  | .declaration => declaration
  | .property => property
  | .accessor => accessor
  | .member => member
  | .members => .seq (.many .separator) (.many (.seq Symbol.member separators))
  | .modifiers => modifierList
  | .note => note
  | .typeParameters => typeParameters
  | .typeConstraints => typeConstraints
  | .specifiers => specifiers
  | .parameters => parameters
  | .functionBody => .node "function_body" (alts [Symbol.block, .seq "=" Symbol.expression])
  | .variable => oneVariable
  | .variableTuple => variableTuple
  | .type => type
  | .plainType => plainType
  | .userType => userType
  | .receiver => receiver
  | .typeArguments => typeArguments
  | .expression => leveled "binary_expression" Symbol.conjunction ["||"]
  | .conjunction => leveled "binary_expression" Symbol.equality ["&&"]
  | .equality => leveled "binary_expression" Symbol.comparison ["==", "!=", "===", "!=="]
  | .comparison => comparison
  | .test => test
  | .elvis => leveled "binary_expression" Symbol.infixCall ["?:"]
  | .infixCall => leveled "infix_expression" Symbol.range [id]
  | .range => leveled "range_expression" Symbol.sum ["..", "..<"]
  | .sum => leveled "binary_expression" Symbol.product ["+", "-"]
  | .product => leveled "binary_expression" Symbol.conversion ["*", "/", "%"]
  | .conversion => conversion
  | .selection => selection
  | .operand => operand
  | .primary => primary
  | .literals => literals
  | .conditional => conditional
  | .cases => cases
  | .attempt => attempt
  | .jump => jump
  | .lambda => lambda
  | .arguments => arguments

end Grammar

/-- The grammar of Kotlin. -/
def grammar : Grammar (List Frame) Symbol where
  lexis
  reserved
  phrase := Grammar.phrase
  file := seqs [opt (literal "shebang"), .many .separator, .many Symbol.fileNote,
    opt Symbol.packageHeader, .many Symbol.importHeader,
    .many (.seq Symbol.statement Grammar.separators)]
  root := "source_file"
  repairs := 1
  reach := 2

end ForbiddenCalls.Kotlin
