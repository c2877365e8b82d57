import ForbiddenCalls.Syntax.Grammar.Repair
import ForbiddenCalls.Syntax.Java.Lexis

/-!
# The grammar of Java

The phrases that a Java file is made of.  Where two phrases begin alike, the one that
reaches farther stands first: a declaration before an expression, a cast before an
expression in parentheses.  Binary operators are read level by level, the loosest
first, and every level groups to the left.
-/

namespace ForbiddenCalls.Java

open Phrase

/-- The symbols of the grammar. -/
inductive Symbol where
  | item
  | statement
  | expressionStatement
  | localVariable
  | ifStatement
  | loop
  | jump
  | tryStatement
  | handlers
  | resource
  | block
  | switchExpression
  | switchLabel
  | pattern
  | parenthesized
  | module
  | typeDeclaration
  | modifiers
  | note
  | elementValue
  | typeParameters
  | superInterfaces
  | classBody
  | member
  | interfaceMember
  | method
  | throws
  | formalParameters
  | declarator
  | arrayInitializer
  | qualifiedName
  | type
  | plainType
  | elementType
  | classType
  | typeArguments
  | dimensions
  | expression
  | lambda
  | conditional
  | disjunction
  | conjunction
  | bitOr
  | bitXor
  | bitAnd
  | equality
  | comparison
  | shift
  | sum
  | product
  | unary
  | cast
  | suffixed
  | primary
  | selection
  | creation
  | string
  | arguments
  deriving DecidableEq, Repr

instance : Coe Symbol (Phrase Symbol) := ⟨.symbol⟩

namespace Grammar

/-- A phrase of this grammar. -/
abbrev P := Phrase Symbol

/-- An identifier. -/
def id : P := name "identifier"

/-- An identifier that is the name of what surrounds it. -/
def itsName : P := .field .name id

/-- A phrase in braces. -/
def braced (a : P) : P := seqs ["\x7b", a, "\x7d"]

/-- A phrase in parentheses. -/
def inParens (a : P) : P := seqs ["(", a, ")"]

/-- A list with commas that may be empty. -/
def commaList (a : P) : P := opt (separated a ",")

/-- Annotations, or none. -/
def annotations : P := .many Symbol.note

/-- Modifiers, or none. -/
def modifiers : P := opt Symbol.modifiers

/-- A type as that of what surrounds it. -/
def itsType : P := .field .type Symbol.plainType

/-- Operands of one kind with operators between them. -/
def leveled (operand : P) (operators : List P) : P :=
  .seq operand (.many (.around "binary_expression" none (.seq (alts operators) operand)))

/-- An operator that begins with a closing angle bracket. -/
def angled (text : String) : P :=
  .glued (.plain text) (text.toList.map fun c => String.ofList [c])

/-- A leaf for one of several keywords, under the kind of all of them. -/
def oneOf (kind : String) (keywords : List String) : P := .node kind (alts (keywords.map sign))

/-! ## Types -/

/-- A type name, perhaps with arguments, and the names nested in it. -/
def classType : P :=
  let arguments : P := opt (.around "generic_type" none Symbol.typeArguments)
  seqs [name "type_identifier", arguments,
    .many (.seq (.around "scoped_type_identifier" none
      (seqs [".", annotations, name "type_identifier"])) arguments)]

/-- A type that is no array. -/
def elementType : P :=
  alts [keyword "void_type" "void", keyword "boolean_type" "boolean",
    oneOf "integral_type" ["byte", "short", "int", "long", "char"],
    oneOf "floating_point_type" ["float", "double"], Symbol.classType]

/-- The arguments of a generic type. -/
def typeArguments : P :=
  let bound := opt (alts [.seq "extends" Symbol.type, .seq (keyword "super" "super") Symbol.type])
  let wildcard := .node "wildcard" (seqs [annotations, "?", bound])
  .node "type_arguments" (seqs ["<", commaList (alts [Symbol.type, wildcard]), ">"])

/-- The type parameters of a declaration. -/
def typeParameters : P :=
  let bound := .node "type_bound" (.seq "extends" (separated Symbol.type "&"))
  let parameter := .node "type_parameter" (seqs [annotations, name "type_identifier", opt bound])
  .node "type_parameters" (seqs ["<", separated parameter ",", ">"])

/-- Some types with commas. -/
def typeList : P := .node "type_list" (separated Symbol.type ",")

/-! ## Declarations -/

/-- An annotation, with or without arguments. -/
def note : P :=
  let pair := .node "element_value_pair" (seqs [id, "=", .field .value Symbol.elementValue])
  let list := .node "annotation_argument_list"
    (inParens (alts [separated pair ",", Symbol.elementValue, .empty]))
  let itsName := .field .name Symbol.qualifiedName
  alts [.node "annotation" (seqs ["@", itsName, list]),
    .node "marker_annotation" (seqs ["@", itsName])]

/-- A value in an annotation. -/
def elementValue : P :=
  let values := .node "element_value_array_initializer"
    (braced (.seq (commaList Symbol.elementValue) (opt ",")))
  alts [values, Symbol.note, Symbol.conditional]

/-- The modifiers of a declaration. -/
def modifierList : P :=
  let words := ["public", "protected", "private", "abstract", "static", "final", "strictfp",
    "default", "synchronized", "native", "transient", "volatile", "sealed", "non-sealed"]
  .node "modifiers" (repeated (alts (Symbol.note :: words.map sign)))

/-- A variable with its dimensions and its value. -/
def declarator : P :=
  .node "variable_declarator" (seqs [itsName, opt Symbol.dimensions,
    opt (.seq "=" (.field .value (alts [Symbol.arrayInitializer, Symbol.expression])))])

/-- Variables with commas. -/
def declarators : P := separated Symbol.declarator ","

/-- Variables of one type. -/
def variableList (kind : String) : P := .node kind (seqs [modifiers, itsType, declarators, ";"])

/-- The parameters of a method. -/
def formalParameters : P :=
  let receiver := .node "receiver_parameter" (seqs [annotations, Symbol.plainType,
    .many (.seq id "."), keyword "this" "this"])
  let spread := .node "spread_parameter" (seqs [modifiers, Symbol.plainType, "...", annotations,
    Symbol.declarator])
  let single := .node "formal_parameter" (seqs [modifiers, itsType, itsName,
    opt Symbol.dimensions])
  .node "formal_parameters" (inParens (.seq (opt (.seq receiver (opt ",")))
    (commaList (alts [spread, single]))))

/-- A method, with or without a body. -/
def method : P :=
  .node "method_declaration" (seqs [modifiers, opt (.seq Symbol.typeParameters annotations),
    itsType, itsName, Symbol.formalParameters, opt Symbol.dimensions, opt Symbol.throws,
    alts [Symbol.block, ";"]])

/-- The declaration of a class, an interface, an enumeration, a record or a type of
annotations. -/
def typeDeclaration : P :=
  let superclass := .node "superclass" (.seq "extends" Symbol.type)
  let extended := .node "extends_interfaces" (.seq "extends" typeList)
  let permits := .node "permits" (.seq "permits" typeList)
  let interfaceBody := .node "interface_body" (braced (.many Symbol.interfaceMember))
  let constant := .node "enum_constant" (seqs [modifiers, itsName, opt Symbol.arguments,
    opt Symbol.classBody])
  let enumBody := .node "enum_body" (braced (seqs [commaList constant, opt ",",
    opt (.node "enum_body_declarations" (.seq ";" (.many Symbol.member)))]))
  let element := .node "annotation_type_element_declaration" (seqs [modifiers, itsType, itsName,
    "(", ")", opt Symbol.dimensions, opt (.seq "default" (.field .value Symbol.elementValue)),
    ";"])
  let annotationBody := .node "annotation_type_body"
    (braced (.many (alts [element, Symbol.interfaceMember])))
  alts [
    .node "class_declaration" (seqs [modifiers, "class", itsName, opt Symbol.typeParameters,
      opt superclass, opt Symbol.superInterfaces, opt permits, Symbol.classBody]),
    .node "interface_declaration" (seqs [modifiers, "interface", itsName,
      opt Symbol.typeParameters, opt extended, opt permits, interfaceBody]),
    .node "enum_declaration" (seqs [modifiers, "enum", itsName, opt Symbol.superInterfaces,
      enumBody]),
    .node "record_declaration" (seqs [modifiers, "record", itsName, opt Symbol.typeParameters,
      Symbol.formalParameters, opt Symbol.superInterfaces, Symbol.classBody]),
    .node "annotation_type_declaration" (seqs [modifiers, "@interface", itsName,
      annotationBody])]

/-- A member of a class. -/
def member : P :=
  let delegation := .node "explicit_constructor_invocation" (seqs [
    alts [.seq (opt Symbol.typeArguments) (alts [keyword "this" "this", keyword "super" "super"]),
      seqs [.field .object Symbol.selection, ".", opt Symbol.typeArguments,
        keyword "super" "super"]],
    Symbol.arguments, ";"])
  let body := .node "constructor_body" (braced (.seq (opt delegation) (.many Symbol.statement)))
  let constructed := .node "constructor_declaration" (seqs [modifiers,
    opt Symbol.typeParameters, itsName, Symbol.formalParameters, opt Symbol.throws, body])
  let compact := .node "compact_constructor_declaration" (seqs [modifiers, itsName,
    Symbol.block])
  alts [";", Symbol.block, .node "static_initializer" (.seq "static" Symbol.block),
    Symbol.typeDeclaration, constructed, compact, Symbol.method, variableList "field_declaration"]

/-- A member of an interface. -/
def interfaceMember : P :=
  alts [";", Symbol.typeDeclaration, Symbol.method, variableList "constant_declaration"]

/-- The declaration of a module. -/
def moduleDeclaration : P :=
  let names (word : String) := opt (.seq word (separated Symbol.qualifiedName ","))
  let directive (word : String) (rest : List P) :=
    .node (word ++ "_module_directive") (seqs (sign word :: rest ++ [sign ";"]))
  let required := .many (oneOf "requires_modifier" ["transitive", "static"])
  let body := .node "module_body" (braced (.many (alts [
    directive "requires" [required, Symbol.qualifiedName],
    directive "exports" [Symbol.qualifiedName, names "to"],
    directive "opens" [Symbol.qualifiedName, names "to"],
    directive "uses" [Symbol.qualifiedName],
    directive "provides" [Symbol.qualifiedName, names "with"]])))
  .node "module_declaration" (seqs [annotations, opt "open", "module",
    .field .name Symbol.qualifiedName, body])

/-! ## Statements -/

/-- A statement at the top of a file, or a method there. -/
def item : P :=
  let package := .node "package_declaration" (seqs [annotations, "package",
    Symbol.qualifiedName, ";"])
  let star := .seq "." (.node "asterisk" "*")
  let imported := .node "import_declaration" (seqs ["import", opt "static",
    Symbol.qualifiedName, opt star, ";"])
  alts [package, imported, Symbol.module, Symbol.statement, Symbol.method]

/-- A loop. -/
def loop : P :=
  let expressions := commaList Symbol.expression
  alts [
    .node "while_statement" (seqs ["while", Symbol.parenthesized, Symbol.statement]),
    .node "do_statement" (seqs ["do", Symbol.statement, "while", Symbol.parenthesized, ";"]),
    .node "enhanced_for_statement" (seqs ["for", "(", modifiers, itsType, itsName,
      opt Symbol.dimensions, ":", .field .value Symbol.expression, ")", Symbol.statement]),
    .node "for_statement" (seqs ["for", "(", alts [Symbol.localVariable, .seq expressions ";"],
      opt Symbol.expression, ";", expressions, ")", Symbol.statement])]

/-- A statement that leaves what it stands in, or checks that it need not. -/
def jump : P :=
  alts [
    .node "break_statement" (seqs ["break", opt id, ";"]),
    .node "continue_statement" (seqs ["continue", opt id, ";"]),
    .node "return_statement" (seqs ["return", opt Symbol.expression, ";"]),
    .node "yield_statement" (seqs ["yield", Symbol.expression, ";"]),
    .node "throw_statement" (seqs ["throw", Symbol.expression, ";"]),
    .node "assert_statement" (seqs ["assert", Symbol.expression,
      opt (.seq ":" Symbol.expression), ";"])]

/-- What follows a block that is tried. -/
def handlers : P :=
  let caught := .node "catch_type" (separated Symbol.plainType "|")
  let parameter := .node "catch_formal_parameter" (seqs [modifiers, caught, itsName,
    opt Symbol.dimensions])
  let handler := .node "catch_clause" (seqs ["catch", inParens parameter, Symbol.block])
  .seq (.many handler) (opt (.node "finally_clause" (.seq "finally" Symbol.block)))

/-- A block that is tried, with or without resources. -/
def tryStatement : P :=
  let resources := .node "resource_specification"
    (inParens (.seq (separated Symbol.resource ";") (opt ";")))
  alts [
    .node "try_with_resources_statement" (seqs ["try", resources, Symbol.block,
      Symbol.handlers]),
    .node "try_statement" (seqs ["try", Symbol.block, .ahead (alts ["catch", "finally"]),
      Symbol.handlers])]

/-- A resource of a block that is tried. -/
def resource : P :=
  .node "resource" (alts [
    seqs [modifiers, itsType, itsName, "=", .field .value Symbol.expression],
    Symbol.selection])

/-- A statement. -/
def statement : P :=
  alts [Symbol.block, ";", Symbol.ifStatement, Symbol.loop, Symbol.jump, Symbol.tryStatement,
    Symbol.switchExpression,
    .node "synchronized_statement" (seqs ["synchronized", Symbol.parenthesized, Symbol.block]),
    .node "labeled_statement" (seqs [id, ":", Symbol.statement]),
    Symbol.typeDeclaration, Symbol.localVariable, Symbol.expressionStatement]

/-! ## Expressions -/

/-- A choice between cases, in the form with colons or in that with arrows. -/
def switchExpression : P :=
  let group := .node "switch_block_statement_group"
    (.seq (repeated (.seq Symbol.switchLabel ":")) (.many Symbol.statement))
  let thrown := .node "throw_statement" (seqs ["throw", Symbol.expression, ";"])
  let arrow := .node "switch_rule" (seqs [Symbol.switchLabel, "->",
    alts [Symbol.block, thrown, Symbol.expressionStatement]])
  .node "switch_expression" (seqs ["switch", Symbol.parenthesized,
    .node "switch_block" (braced (alts [repeated arrow, .many group]))])

/-- The label of a case. -/
def switchLabel : P :=
  let guard := .node "guard" (.seq "when" Symbol.expression)
  .node "switch_label" (alts [
    .seq "case" (alts [.seq (.node "pattern" Symbol.pattern) (opt guard),
      separated (alts [Symbol.conditional, "default"]) ","]),
    "default"])

/-- What a value can be taken apart by. -/
def pattern : P :=
  let component := .node "record_pattern_component" (seqs [Symbol.plainType, id])
  let components := .node "record_pattern_body"
    (inParens (commaList (alts [component, Symbol.pattern])))
  alts [.node "type_pattern" (.seq Symbol.plainType id),
    .node "record_pattern" (.seq Symbol.classType components)]

/-- An expression: a function, or a condition, which may be assigned to. -/
def expression : P :=
  let operators : List P := ["=", "+=", "-=", "*=", "/=", "&=", "|=", "^=", "%=", "<<="]
  let shifts := [angled ">>>=", angled ">>="]
  alts [Symbol.lambda, .seq Symbol.conditional
    (opt (.around "assignment_expression" none
      (.seq (alts (operators ++ shifts)) Symbol.expression)))]

/-- A function in place. -/
def lambda : P :=
  let inferred := .node "inferred_parameters" (inParens (separated id ","))
  .node "lambda_expression" (seqs [alts [id, Symbol.formalParameters, inferred], "->",
    alts [Symbol.block, Symbol.expression]])

/-- A choice between two expressions, or a single one. -/
def conditional : P :=
  .seq Symbol.disjunction (opt (.around "ternary_expression" none
    (seqs ["?", Symbol.expression, ":", alts [Symbol.lambda, Symbol.conditional]])))

/-- Shifted values that are compared, or tested for a type. -/
def comparison : P :=
  let greater := .seq (.absent (alts [angled ">>", angled ">="])) ">"
  let tested := seqs ["instanceof", opt "final", alts [
    .seq Symbol.plainType itsName, Symbol.pattern, Symbol.plainType]]
  .seq Symbol.shift (.many (alts [
    .around "binary_expression" none
      (.seq (alts ["<=", "<", .seq (.absent (angled ">>")) (angled ">="), greater])
        Symbol.shift),
    .around "instanceof_expression" none tested]))

/-- An expression with an operator in front, a cast, or what these apply to. -/
def unary : P :=
  alts [.node "update_expression" (.seq (alts ["++", "--"]) Symbol.unary),
    .node "unary_expression" (.seq (alts ["+", "-", "!", "~"]) Symbol.unary),
    Symbol.cast, Symbol.suffixed]

/-- A cast.  What follows a cast to the type of a class does not begin with a sign,
since that would be a sum. -/
def cast : P :=
  let operand := .field .value (alts [Symbol.lambda, Symbol.unary])
  let isSigned := alts ["+", "-", "++", "--"]
  let types := .seq itsType (.many (.seq "&" Symbol.type))
  let primitive := alts ["boolean", "byte", "short", "int", "long", "char", "float",
    "double"]
  .node "cast_expression" (seqs ["(", alts [
    seqs [.ahead primitive, types, ")", operand],
    seqs [types, ")", .absent isSigned, operand]]])

/-- A literal. -/
def literals : P :=
  alts (["decimal_integer_literal", "hex_integer_literal", "octal_integer_literal",
    "binary_integer_literal", "decimal_floating_point_literal", "character_literal"].map
      literal ++ [keyword "true" "true", keyword "false" "false", keyword "null_literal" "null",
    Symbol.string])

/-- A string or a text block. -/
def string : P :=
  let quoted (quote fragment : String) :=
    seqs [quote, .many (alts [literal fragment, literal "escape_sequence"]), quote]
  .node "string_literal" (alts [quoted "\"" "string_fragment",
    quoted "\"\"\"" "multiline_string_fragment"])

/-- What a chain of selections starts with. -/
def primary : P :=
  let reference := .seq "::" (.seq (opt Symbol.typeArguments) (alts ["new", id]))
  let named := .seq id (.many (.seq "." id))
  alts [literals, keyword "this" "this",
    .seq (keyword "super" "super") (.ahead (alts [".", "::"])),
    Symbol.parenthesized, Symbol.creation, Symbol.switchExpression,
    .node "class_literal" (seqs [Symbol.plainType, ".", "class"]),
    .node "method_reference" (seqs [.absent (.seq named "::"), Symbol.plainType, reference]),
    .node "method_invocation" (.seq itsName Symbol.arguments),
    id]

/-- What an object is created with behind the keyword. -/
def created : P :=
  seqs ["new", opt Symbol.typeArguments, annotations, .field .type Symbol.elementType,
    Symbol.arguments, opt Symbol.classBody]

/-- The creation of an array or of an object. -/
def creation : P :=
  let sized := .node "dimensions_expr" (seqs [annotations, "[", Symbol.expression, "]"])
  alts [
    .node "array_creation_expression" (seqs ["new", annotations,
      .field .type Symbol.elementType, alts [
        .seq (repeated sized) (opt Symbol.dimensions),
        .seq Symbol.dimensions (.field .value Symbol.arrayInitializer)]]),
    .node "object_creation_expression" created]

/-- A chain of calls, accesses and references. -/
def selection : P :=
  let super : P := .seq (keyword "super" "super") "."
  .seq Symbol.primary (.many (alts [
    .around "method_invocation" (some .object) (seqs [".", opt super,
      opt Symbol.typeArguments, itsName, Symbol.arguments]),
    .around "object_creation_expression" none (.seq "." created),
    .around "field_access" (some .object) (seqs [".", opt super,
      alts [id, keyword "this" "this"]]),
    .around "array_access" none (seqs ["[", Symbol.expression, "]"]),
    .around "method_reference" none (seqs ["::", opt Symbol.typeArguments,
      alts ["new", id]])]))

/-! ## The phrases of the symbols -/

/-- The phrase of a symbol. -/
def phrase : Symbol → P
  | .item => item
  | .statement => statement
  | .expressionStatement => .node "expression_statement" (.seq Symbol.expression ";")
  | .localVariable => variableList "local_variable_declaration"
  | .ifStatement => .node "if_statement" (seqs ["if", Symbol.parenthesized, Symbol.statement,
      opt (.seq "else" Symbol.statement)])
  | .loop => loop
  | .jump => jump
  | .tryStatement => tryStatement
  | .handlers => handlers
  | .resource => resource
  | .block => .node "block" (braced (.many Symbol.statement))
  | .switchExpression => switchExpression
  | .switchLabel => switchLabel
  | .pattern => pattern
  | .parenthesized => .node "parenthesized_expression" (inParens Symbol.expression)
  | .module => moduleDeclaration
  | .typeDeclaration => typeDeclaration
  | .modifiers => modifierList
  | .note => note
  | .elementValue => elementValue
  | .typeParameters => typeParameters
  | .superInterfaces => .node "super_interfaces" (.seq "implements" typeList)
  | .classBody => .node "class_body" (braced (.many Symbol.member))
  | .member => member
  | .interfaceMember => interfaceMember
  | .method => method
  | .throws => .node "throws" (.seq "throws" (separated Symbol.type ","))
  | .formalParameters => formalParameters
  | .declarator => declarator
  | .arrayInitializer => .node "array_initializer" (braced (.seq
      (commaList (alts [Symbol.arrayInitializer, Symbol.expression])) (opt ",")))
  | .qualifiedName => .seq id (.many (.around "scoped_identifier" none (.seq "." itsName)))
  | .type => alts [.node "annotated_type" (.seq (repeated Symbol.note) Symbol.plainType),
      Symbol.plainType]
  | .plainType => .seq Symbol.elementType (opt (.around "array_type" none Symbol.dimensions))
  | .elementType => elementType
  | .classType => classType
  | .typeArguments => typeArguments
  | .dimensions => .node "dimensions" (repeated (seqs [annotations, "[", "]"]))
  | .expression => expression
  | .lambda => lambda
  | .conditional => conditional
  | .disjunction => leveled Symbol.conjunction ["||"]
  | .conjunction => leveled Symbol.bitOr ["&&"]
  | .bitOr => leveled Symbol.bitXor ["|"]
  | .bitXor => leveled Symbol.bitAnd ["^"]
  | .bitAnd => leveled Symbol.equality ["&"]
  | .equality => leveled Symbol.comparison ["==", "!="]
  | .comparison => comparison
  | .shift => leveled Symbol.sum ["<<", .seq (.absent (angled ">>>=")) (angled ">>>"),
      .seq (.absent (alts [angled ">>>", angled ">>="])) (angled ">>")]
  | .sum => leveled Symbol.product ["+", "-"]
  | .product => leveled Symbol.unary ["*", "/", "%"]
  | .unary => unary
  | .cast => cast
  | .suffixed => .seq Symbol.selection
      (.many (.around "update_expression" none (alts ["++", "--"])))
  | .primary => primary
  | .selection => selection
  | .creation => creation
  | .string => string
  | .arguments => .node "argument_list" (inParens (commaList Symbol.expression))

end Grammar

/-- The grammar of Java. -/
def grammar : Grammar Mode Symbol where
  lexis
  reserved
  phrase := Grammar.phrase
  file := .many Symbol.item
  root := "program"
  repairs := 3
  reach := 5

end ForbiddenCalls.Java
