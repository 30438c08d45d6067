import RuleLint.Syntax.Grammar.Reader

/-!
# The grammar of Go

A line end ends a statement where one can end. Between the head of a statement and its block no literal
of a composite type may stand, so expressions come in two forms.
-/

namespace RuleLint.Grammars

def goTokens : String := r#"
root source_file ;
item _piece ;
lines strict ;
blank /\s/ ;
extra comment ;
word identifier ;
reserved break case chan const continue default defer else fallthrough for func go goto if import
  interface map package range return select struct switch type var ;

comment = /\/\/.*|\/\*[^*]*\*+(?:[^\/*][^*]*\*+)*\// ;
identifier = /[_\p{XID_Start}][_\p{XID_Continue}]*/ ;
int_literal = /0[xX](?:_?[0-9a-fA-F])+|0[oO](?:_?[0-7])+|0[bB](?:_?[01])+|[0-9](?:_?[0-9])*/ ;
float_literal = /(?:[0-9](?:_?[0-9])*\.(?:[0-9](?:_?[0-9])*)?(?:[eE][+-]?[0-9](?:_?[0-9])*)?|\.[0-9](?:_?[0-9])*(?:[eE][+-]?[0-9](?:_?[0-9])*)?|[0-9](?:_?[0-9])*[eE][+-]?[0-9](?:_?[0-9])*|0[xX](?:_?[0-9a-fA-F])*\.?(?:_?[0-9a-fA-F])*[pP][+-]?[0-9](?:_?[0-9])*)/ ;
imaginary_literal = /(?:0[xX](?:_?[0-9a-fA-F])+|0[oO](?:_?[0-7])+|0[bB](?:_?[01])+|[0-9](?:_?[0-9])*(?:\.(?:[0-9](?:_?[0-9])*)?)?(?:[eE][+-]?[0-9](?:_?[0-9])*)?|\.[0-9](?:_?[0-9])*(?:[eE][+-]?[0-9](?:_?[0-9])*)?)i/ ;
rune_literal = /'(?:[^'\\\n]|\\(?:x[0-9a-fA-F]{2}|[0-7]{3}|u[0-9a-fA-F]{4}|U[0-9a-fA-F]{8}|[abfnrtv\\'"]))'/ ;
raw_string_literal = '`' (^/[^`]+/ -> raw_string_literal_content)? ^'`' ;
interpreted_string_literal = '"' (^/[^"\n\\]+/ -> interpreted_string_literal_content
  | escape_sequence)* ^'"' ;
escape_sequence = ^/\\(?:[^xuU]|[0-9]{2,3}|x[0-9a-fA-F]{2,}|u[0-9a-fA-F]{4}|U[0-9a-fA-F]{8})/ ;
nil = 'nil' ;
true = 'true' ;
false = 'false' ;
iota = 'iota' ;
dot = '.' ;
blank_identifier = '_' ;
"#

def goDeclarations : String := r#"
source_file = ~ ((_top_level_declaration | _statement) _end ~)* ;
_piece = _top_level_declaration _end? | _statement _end? | %free _expression ;
_end = "\n" | ';' | &'\x7d' | &')' | %text_end ;

_top_level_declaration = package_clause | function_declaration | method_declaration
  | import_declaration ;
package_clause = 'package' (identifier -> package_identifier) ;
import_declaration = 'import' (import_spec | import_spec_list) ;
import_spec = (name:(dot | blank_identifier | identifier -> package_identifier))?
  path:_string_literal ;
import_spec_list = '(' ~ (import_spec _terminator ~)* ')' ;
_terminator = "\n" | ';' | &')' | &'\x7d' ;
_declaration = const_declaration | type_declaration | var_declaration ;
const_declaration = 'const' (const_spec | '(' ~ (const_spec _terminator ~)* ')') ;
const_spec = name:identifier (name:',' ~ name:identifier)* ((type:_type)? '=' ~ value:expression_list)? ;
var_declaration = 'var' (var_spec | var_spec_list) ;
var_spec_list = '(' ~ (var_spec _terminator ~)* ')' ;
var_spec = name:identifier (',' ~ name:identifier)* ('=' ~ value:expression_list
  | type:_type ('=' ~ value:expression_list)?) ;
function_declaration = 'func' name:identifier (type_parameters:type_parameter_list)?
  parameters:parameter_list (result:(parameter_list | _simple_type))? (body:block)? ;
method_declaration = 'func' receiver:parameter_list name:(identifier -> field_identifier)
  parameters:parameter_list (result:(parameter_list | _simple_type))? (body:block)? ;
type_parameter_list = '[' %free (type_parameter_declaration (',' type_parameter_declaration)* ','?
  ']') ;
type_parameter_declaration = name:identifier (',' name:identifier)* type:(_constraint -> type_constraint) ;
_constraint = _type ('|' _type)* ;
parameter_list = '(' %free ((_parameter (',' _parameter)* ','?)? ')') ;
_parameter = variadic_parameter_declaration | parameter_declaration ;
parameter_declaration = name:identifier (',' name:identifier)* type:_type &(',' | ')') | type:_type ;
variadic_parameter_declaration = (name:identifier)? '...' type:_type ;
type_alias = name:(identifier -> type_identifier) (type_parameters:type_parameter_list)? '=' ~
  type:_type ;
type_declaration = 'type' (type_alias | type_spec | '(' ~ ((type_alias | type_spec) _terminator ~)* ')') ;
type_spec = name:(identifier -> type_identifier) (type_parameters:type_parameter_list &_type)?
  type:_type ;
"#

def goTypes : String := r#"
class _type = _simple_type parenthesized_type ;
class _simple_type = type_identifier generic_type qualified_type pointer_type struct_type
  interface_type array_type slice_type map_type channel_type function_type negated_type ;

_type = parenthesized_type | _simple_type ;
_simple_type = pointer_type | struct_type | interface_type | array_type | slice_type | map_type
  | channel_type | function_type | negated_type | generic_type | qualified_type
  | identifier -> type_identifier ;
parenthesized_type = '(' %free (_type ')') ;
generic_type = type:(qualified_type | identifier -> type_identifier) type_arguments:type_arguments ;
type_arguments = '[' %free (type_elem (',' type_elem)* ','? ']') ;
pointer_type = '*' _type ;
array_type = '[' %free (length:_expression ']') element:_type ;
implicit_length_array_type = '[' '...' ']' element:_type ;
slice_type = '[' ']' element:_type ;
struct_type = 'struct' field_declaration_list ;
negated_type = '~' _type ;
field_declaration_list = '\x7b' ~ %strict (field_declaration _terminator ~)* '\x7d' ;
field_declaration = (name:(identifier -> field_identifier)
    (',' ~ name:(identifier -> field_identifier))* type:_type
  | '*'? type:(generic_type | qualified_type | identifier -> type_identifier))
  (tag:_string_literal)? ;
interface_type = 'interface' '\x7b' ~ %strict (_interface_element _terminator ~)* '\x7d' ;
_interface_element = method_elem | type_elem ;
method_elem = name:(identifier -> field_identifier) parameters:parameter_list
  (result:(parameter_list | _simple_type))? ;
type_elem = _type ('|' ~ _type)* ;
map_type = 'map' '[' %free (key:_type ']') value:_type ;
channel_type = 'chan' '<-' value:_type | 'chan' value:_type | '<-' 'chan' value:_type ;
function_type = 'func' parameters:parameter_list (result:(parameter_list | _simple_type))? ;
qualified_type = package:(identifier -> package_identifier) '.' name:(identifier -> type_identifier) ;
"#

def goStatements : String := r#"
class _statement = const_declaration type_declaration var_declaration _simple_statement
  return_statement go_statement defer_statement if_statement for_statement
  expression_switch_statement type_switch_statement select_statement labeled_statement
  fallthrough_statement break_statement continue_statement goto_statement block empty_statement ;
class _simple_statement = expression_statement send_statement inc_statement dec_statement
  assignment_statement short_var_declaration ;
union _declaration = const_declaration type_declaration var_declaration ;

block = '\x7b' ~ %strict (_statement_list? '\x7d') ;
_statement_list = (_list_item _end_of_statement ~)+ ;
_list_item = _empty_labeled_statement -> labeled_statement | _statement ;
_empty_labeled_statement = label:(identifier -> label_name) ':' ~ &('\x7d' | 'case' | 'default') ;
_end_of_statement = "\n" | ';' | &'\x7d' | &'case' | &'default' ;
_statement = _declaration | return_statement | go_statement | defer_statement | if_statement
  | for_statement | type_switch_statement | expression_switch_statement | select_statement
  | labeled_statement | fallthrough_statement | break_statement | continue_statement
  | goto_statement | block | _simple_statement | empty_statement ;
empty_statement = &';' ';' ;
_simple_statement = short_var_declaration | assignment_statement | inc_statement | dec_statement
  | send_statement | expression_statement ;
expression_statement = _expression ;
send_statement = channel:_expression '<-' ~ value:_expression ;
receive_statement = (left:expression_list ('=' | ':=') ~)? right:_expression ;
inc_statement = _expression '++' ;
dec_statement = _expression '--' ;
assignment_statement = left:expression_list operator:('*=' | '/=' | '%=' | '<<=' | '>>=' | '&=' | '&^='
  | '+=' | '-=' | '|=' | '^=' | '=') ~ right:expression_list ;
short_var_declaration = left:expression_list ':=' ~ right:expression_list ;
labeled_statement = label:(identifier -> label_name) ':' ~ _statement ;
fallthrough_statement = 'fallthrough' ;
break_statement = 'break' (identifier -> label_name)? ;
continue_statement = 'continue' (identifier -> label_name)? ;
goto_statement = 'goto' (identifier -> label_name) ;
return_statement = 'return' expression_list? ;
go_statement = 'go' _expression ;
defer_statement = 'defer' _expression ;

union _head_statement = expression_statement send_statement inc_statement dec_statement
  assignment_statement short_var_declaration ;
_head_statement = _head_declaration -> short_var_declaration
  | _head_assignment -> assignment_statement | _head_increment -> inc_statement
  | _head_decrement -> dec_statement | _head_expression -> expression_statement ;
_head_declaration = left:(_head_list -> expression_list) ':=' ~ right:(_head_list -> expression_list) ;
_head_assignment = left:(_head_list -> expression_list) operator:('*=' | '/=' | '%=' | '<<=' | '>>='
  | '&=' | '&^=' | '+=' | '-=' | '|=' | '^=' | '=') ~ right:(_head_list -> expression_list) ;
_head_increment = _plain_expression '++' ;
_head_decrement = _plain_expression '--' ;
_head_expression = _plain_expression ;
_head_list = _plain_expression (',' ~ _plain_expression)* ;
if_statement = 'if' (initializer:_head_statement ';' ~)? condition:_plain_expression
  consequence:block ('else' alternative:(block | if_statement))? ;
for_statement = 'for' (for_clause | range_clause | _plain_expression)? body:block ;
for_clause = (initializer:_head_statement)? ';' (condition:_plain_expression)? ';'
  (update:_head_statement)? ;
range_clause = (left:expression_list ('=' | ':=') ~)? 'range' right:_plain_expression ;
expression_switch_statement = 'switch' (initializer:_head_statement? ';')? (value:_plain_expression)?
  '\x7b' ~ %strict ((expression_case | default_case)* '\x7d') ;
expression_case = 'case' value:expression_list ':' ~ _statement_list? ;
default_case = 'default' ':' ~ _statement_list? ;
type_switch_statement = 'switch' _type_switch_header '\x7b' ~ %strict ((type_case | default_case)* '\x7d') ;
_type_switch_header = (initializer:_head_statement ';')? (alias:expression_list ':=' ~)?
  value:_switched '.' '(' 'type' ')' ;
union _switched = _expression ;
_switched ::= identifier | parenthesized_expression
  | [6] _switched_field -> selector_expression
  | [6] type_assertion_expression
  | [6] call_expression
  | [6] index_expression ;
_switched_field = operand:$_expression '.' field:(identifier -> field_identifier) ;
type_case = 'case' type:_type (',' ~ type:_type)* ':' ~ _statement_list? ;
select_statement = 'select' '\x7b' ~ %strict ((communication_case | default_case)* '\x7d') ;
communication_case = 'case' communication:(send_statement | receive_statement) ':' ~
  _statement_list? ;
"#

/-- Expressions that stand in either form. -/
def goExpressions : String := r#"
class _expression = unary_expression binary_expression selector_expression index_expression
  slice_expression call_expression type_assertion_expression type_conversion_expression
  type_instantiation_expression identifier composite_literal func_literal raw_string_literal
  interpreted_string_literal int_literal float_literal imaginary_literal rune_literal nil true false
  iota parenthesized_expression ;

union _plain_expression = _expression ;

expression_list = _expression (',' ~ _expression)* ;
parenthesized_expression = '(' %free (_expression ')') ;
call_expression = function:$_expression (type_arguments:type_arguments &'(')? arguments:argument_list ;
_allocation = function:(('new' | 'make') -> identifier) arguments:(_special_arguments -> argument_list) ;
_special_arguments = '(' %free ((_type (',' _expression)* ','?)? ')') ;
argument_list = '(' %free ((_argument (',' _argument)* ','?)? ')') ;
_argument = variadic_argument | _expression ;
variadic_argument = _expression '...' ;
selector_expression = operand:$_expression '.' ~ field:(identifier -> field_identifier) ;
index_expression = operand:$_expression '[' %free (index:_expression ']') ;
slice_expression = operand:$_expression '[' %free ((start:_expression)? ':' (end:_expression
  (':' capacity:_expression)?)? ']') ;
type_assertion_expression = operand:$_expression '.' ~ '(' %free (type:_type ')') ;
type_conversion_expression = type:_conversion_type '(' %free (operand:_expression ','? ')') ;
union _conversion_type = _type ;
_conversion_type = slice_type | array_type | map_type | channel_type | function_type | interface_type
  | struct_type | generic_type ;
composite_literal = type:(map_type | slice_type | array_type | implicit_length_array_type
  | struct_type) body:literal_value ;
_named_literal = type:(generic_type | qualified_type | identifier -> type_identifier)
  body:literal_value ;
literal_value = '\x7b' %free (((keyed_element | literal_element)
  (',' (keyed_element | literal_element))* ','?)? '\x7d') ;
literal_element = _expression | literal_value ;
keyed_element = literal_element ':' literal_element ;
func_literal = 'func' parameters:parameter_list (result:(parameter_list | _simple_type))?
  body:block ;
_string_literal = raw_string_literal | interpreted_string_literal ;
type_instantiation_expression = type:_instance_type '[' %free ((_type (',' _type)+ ','? | _type ','
  | _written_type) ']') ;
union _written_type = _type ;
_written_type = slice_type | array_type | map_type | channel_type | function_type | interface_type
  | struct_type ;
union _instance_type = _type ;
_instance_type = qualified_type | identifier -> type_identifier ;
"#

/-- The operators of a form of expressions; `start` is what only this form can start with. -/
def goOperators (name start : String) : String :=
  name ++ " ::= " ++ start ++ r#" composite_literal | func_literal | _allocation -> call_expression
  | type_conversion_expression | raw_string_literal | interpreted_string_literal
  | imaginary_literal | float_literal | int_literal | rune_literal | nil | true | false | iota
  | NAME_unary -> unary_expression | parenthesized_expression
  | type_instantiation_expression | identifier
  | [6] call_expression
  | [6] selector_expression
  | [6] type_assertion_expression
  | [6] index_expression
  | [6] slice_expression
  | [5] NAME_times -> binary_expression
  | [4] NAME_plus -> binary_expression
  | [3] NAME_relation -> binary_expression
  | [2] NAME_and -> binary_expression
  | [1] NAME_or -> binary_expression ;
NAME_unary = operator:('+' | '-' | '!' | '^' | '*' | '&' | '<-') operand:NAME@6 ;
NAME_times = left:$_expression operator:('*' | '/' | '%' | '<<' | '>>' | '&' | '&^') ~ right:NAME@6 ;
NAME_plus = left:$_expression operator:('+' | '-' | '|' | '^') ~ right:NAME@5 ;
NAME_relation = left:$_expression operator:('==' | '!=' | '<=' | '>=' | '<' | '>') ~ right:NAME@4 ;
NAME_and = left:$_expression operator:'&&' ~ right:NAME@3 ;
NAME_or = left:$_expression operator:'||' ~ right:NAME@2 ;
"#.replace "NAME" name

def goText : String :=
  goTokens ++ goDeclarations ++ goTypes ++ goStatements ++ goExpressions ++
    goOperators "_expression" "_named_literal -> composite_literal | " ++
    goOperators "_plain_expression" ""

end RuleLint.Grammars
