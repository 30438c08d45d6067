import RuleLint.Syntax.Grammar.Reader

/-!
# The grammar of Rust

In front of a block no name may be followed by the fields of a structure, so expressions come in two
forms. What ends with a block is a statement of its own unless an operator follows that no statement
can start with.
-/

namespace RuleLint.Grammars

def rustTokens : String := r#"
root source_file ;
item _statement ;
blank /\s/ ;
extra line_comment block_comment ;
word identifier ;
reserved as async await break const continue crate dyn else enum extern false fn for if impl in let
  loop match mod move mut pub ref return self static struct super trait true type unsafe use where
  while yield _ ;

identifier = /(?:r#)?[_\p{XID_Start}][_\p{XID_Continue}]*/ ;
shebang = /#![\r\f\t\v ]*(?:[^\[\n].*)?\n/ ;
self = 'self' ;
super = 'super' ;
crate = 'crate' ;
mutable_specifier = 'mut' ;
metavariable = /\$[a-zA-Z_]\w*/ ;

class _literal = string_literal raw_string_literal char_literal boolean_literal integer_literal
  float_literal ;
class _literal_pattern = string_literal raw_string_literal char_literal boolean_literal
  integer_literal float_literal negative_literal ;
_literal = raw_string_literal | string_literal | char_literal | boolean_literal | float_literal
  | integer_literal ;
_literal_pattern = raw_string_literal | string_literal | char_literal | boolean_literal
  | float_literal | integer_literal | negative_literal ;
negative_literal = '-' (float_literal | integer_literal) ;
integer_literal = /(?:0x[0-9a-fA-F_]+|0b[01_]+|0o[0-7_]+|[0-9][0-9_]*)(?:[ui](?:8|16|32|64|128|size)|f32|f64)?/ ;
float_literal = _number_with_places | _number_with_point ;
_number_with_places = /[0-9][0-9_]*(?:\.[0-9][0-9_]*(?:[eE][+-]?[0-9_]+)?|[eE][+-]?[0-9_]+)(?:[uif][0-9]+)?/ ;
_number_with_point = /[0-9][0-9_]*\./ !(^/[._\p{XID_Start}]/) ;
string_literal = (/[bc]?"/ -> '"') (escape_sequence | ^/[^"\\]+/ -> string_content)* ^'"' ;
escape_sequence = ^/\\(?:[^xu]|u[0-9a-fA-F]{4}|u\x7b[0-9a-fA-F]+\x7d|x[0-9a-fA-F]{2})/ ;
raw_string_literal = /[bc]?r"/ ((^/[^"]+/)* -> string_content) ^/"/
  | /[bc]?r\x23"/ ((^/[^"]+/ | !(^/"\x23/) ^/"/)* -> string_content) ^/"\x23/
  | /[bc]?r\x23{2}"/ ((^/[^"]+/ | !(^/"\x23{2}/) ^/"/)* -> string_content) ^/"\x23{2}/
  | /[bc]?r\x23{3}"/ ((^/[^"]+/ | !(^/"\x23{3}/) ^/"/)* -> string_content) ^/"\x23{3}/
  | /[bc]?r\x23{4}"/ ((^/[^"]+/ | !(^/"\x23{4}/) ^/"/)* -> string_content) ^/"\x23{4}/ ;
char_literal = /b?'(?:\\(?:[^xu]|u[0-9a-fA-F]{4}|u\x7b[0-9a-fA-F]+\x7d|x[0-9a-fA-F]{2})|[^\\'])?'/ ;
boolean_literal = 'true' | 'false' ;

line_comment = "//" (^/\/\/.*/ | _line_doc_marker doc:(^/[^\n]*\n?/ -> doc_comment) | ^/.*/) ;
_line_doc_marker = outer:(^/\// -> outer_doc_comment_marker)
  | inner:(^/!/ -> inner_doc_comment_marker) ;
block_comment = "/*" (_block_doc_marker (doc:(_comment_part+ -> doc_comment))? | _comment_part*) ^"*/" ;
_block_doc_marker = outer:(^/\*/ -> outer_doc_comment_marker) !(^/[*\/]/)
  | inner:(^/!/ -> inner_doc_comment_marker) ;
_comment_part = ^/[^*\/]+/ | _nested_comment | !(^/\*\//) ^/\*/ | !(^/\/\*/) ^/\// ;
_nested_comment = ^/\/\*/ _comment_part* ^/\*\// ;
"#

def rustDeclarations : String := r#"
source_file = shebang? _statement* ;
_statement = _declaration_statement | expression_statement | _loose_macro !_goes_on !'\x7d' ;
union _loose_macro = _declaration_statement ;
_loose_macro = macro_invocation ;
empty_statement = ';' ;
expression_statement = _expression_ending_with_block !_goes_on | _expression ';' ;
_goes_on = '.' | '?' | 'as' | '=' | '==' | '!=' | '<=' | '>=' | '>' | '>>' | '<<' | '+' | '/' | '%' | '^' | '&&'
  | '||' | '+=' | '-=' | '*=' | '/=' | '%=' | '&=' | '|=' | '^=' | '<<=' | '>>=' | '...' | '..=' ;

class _declaration_statement = const_item macro_invocation macro_definition empty_statement
  attribute_item inner_attribute_item mod_item foreign_mod_item struct_item union_item enum_item
  type_item function_item function_signature_item impl_item trait_item associated_type
  let_declaration use_declaration extern_crate_declaration static_item ;
_declaration_statement = empty_statement | attribute_item | inner_attribute_item | let_declaration
  | use_declaration | function_item | function_signature_item | const_item | static_item | mod_item
  | foreign_mod_item | extern_crate_declaration | struct_item | union_item | enum_item | type_item
  | associated_type | impl_item | trait_item | macro_definition ;

attribute_item = '#' '[' attribute ']' ;
inner_attribute_item = '#' '!' '[' attribute ']' ;
attribute = _path ('=' value:_expression | arguments:(delim_token_tree -> token_tree))? ;
mod_item = visibility_modifier? 'mod' name:identifier (';' | body:declaration_list) ;
foreign_mod_item = visibility_modifier? extern_modifier (';' | body:declaration_list) ;
declaration_list = '\x7b' (_declaration_statement | _loose_macro)* '\x7d' ;
struct_item = visibility_modifier? 'struct' name:_type_identifier
  (type_parameters:type_parameters)? (where_clause? body:field_declaration_list
  | body:ordered_field_declaration_list where_clause? ';' | ';') ;
union_item = visibility_modifier? 'union' name:_type_identifier (type_parameters:type_parameters)?
  where_clause? body:field_declaration_list ;
enum_item = visibility_modifier? 'enum' name:_type_identifier (type_parameters:type_parameters)?
  where_clause? body:enum_variant_list ;
enum_variant_list = '\x7b' (attribute_item* enum_variant (',' attribute_item* enum_variant)*)? ','?
  '\x7d' ;
enum_variant = visibility_modifier? name:identifier
  (body:(field_declaration_list | ordered_field_declaration_list))? ('=' value:_expression)? ;
field_declaration_list = '\x7b' (attribute_item* field_declaration
  (',' attribute_item* field_declaration)*)? ','? '\x7d' ;
field_declaration = visibility_modifier? name:_field_identifier ':' type:_type ;
ordered_field_declaration_list = '(' (_ordered_field (',' _ordered_field)*)? ','? ')' ;
_ordered_field = attribute_item* visibility_modifier? type:_type ;
extern_crate_declaration = visibility_modifier? 'extern' crate name:identifier
  ('as' alias:(identifier | '_' -> identifier))? ';' ;
const_item = visibility_modifier? 'const' name:(identifier | '_' -> identifier) ':' type:_type
  ('=' value:_expression)? ';' ;
static_item = visibility_modifier? 'static' 'ref'? mutable_specifier? name:identifier ':' type:_type
  ('=' value:_expression)? ';' ;
type_item = visibility_modifier? 'type' name:_type_identifier (type_parameters:type_parameters)?
  where_clause? '=' type:_type where_clause? ';' ;
function_item = _function_head body:block ;
function_signature_item = _function_head ';' ;
_function_head = visibility_modifier? function_modifiers? 'fn' name:(identifier | metavariable)
  (type_parameters:type_parameters)? parameters:parameters ('->' return_type:_type)? where_clause? ;
function_modifiers = ('async' | 'default' | 'const' | 'unsafe' | extern_modifier)+ ;
where_clause = 'where' (where_predicate (',' where_predicate)* ','?)? ;
where_predicate = left:(lifetime | higher_ranked_trait_bound | _bare_type) bounds:trait_bounds ;
union _bare_type = type_identifier scoped_type_identifier generic_type reference_type pointer_type
  tuple_type array_type primitive_type ;
_bare_type = reference_type | pointer_type | tuple_type | array_type | _named_type ;
impl_item = 'unsafe'? 'impl' (type_parameters:type_parameters)? ('!'? trait:_named_type 'for')?
  type:_type where_clause? (body:declaration_list | ';') ;
trait_item = visibility_modifier? 'unsafe'? 'trait' name:_type_identifier
  (type_parameters:type_parameters)? (bounds:trait_bounds)? where_clause? body:declaration_list ;
associated_type = 'type' name:_type_identifier (type_parameters:type_parameters)?
  (bounds:trait_bounds)? where_clause? ';' ;
trait_bounds = ':' (_bound ('+' _bound)*)? ;
_bound = lifetime | higher_ranked_trait_bound | _type@2 ;
higher_ranked_trait_bound = 'for' type_parameters:type_parameters type:_type@2 ;
removed_trait_bound = '?' _type@2 ;
type_parameters = "<" attribute_item* _type_parameter (',' attribute_item* _type_parameter)* ','? ">" ;
_type_parameter = const_parameter | constrained_type_parameter | optional_type_parameter | lifetime
  | metavariable | _type_identifier ;
const_parameter = 'const' name:identifier ':' type:_type
  ('=' value:(block | identifier | _literal | negative_literal))? ;
constrained_type_parameter = left:(lifetime | _type_identifier) bounds:trait_bounds !'=' ;
optional_type_parameter = name:(constrained_type_parameter_open -> constrained_type_parameter
  | _type_identifier) '=' default_type:_type ;
constrained_type_parameter_open = left:_type_identifier bounds:trait_bounds ;
let_declaration = 'let' mutable_specifier? pattern:_pattern (':' type:_type)? ('=' value:_expression)?
  ('else' alternative:block)? ';' ;
use_declaration = visibility_modifier? 'use' argument:_use_clause ';' ;
_use_clause = scoped_use_list | use_wildcard | use_as_clause | use_list | _path ;
scoped_use_list = (path:_open_path)? '::' list:use_list ;
use_list = '\x7b' (_use_clause (',' _use_clause)*)? ','? '\x7d' ;
use_as_clause = path:_path 'as' alias:(identifier | '_' -> identifier) ;
use_wildcard = (_open_path? '::')? '*' ;
parameters = '(' (_parameter (',' _parameter)*)? ','? ')' ;
_parameter = attribute_item? (self_parameter | variadic_parameter | parameter | '_' | _type) ;
self_parameter = "&"? lifetime? mutable_specifier? self !':' ;
variadic_parameter = mutable_specifier? (pattern:_pattern ':')? '...' ;
parameter = mutable_specifier? pattern:(self | _pattern) ':' type:_type ;
extern_modifier = 'extern' string_literal? ;
visibility_modifier = 'pub' ('(' (self | super | crate | 'in' _path) ')')?
  | crate &('fn' | 'struct' | 'enum' | 'mod' | 'use' | 'const' | 'static' | 'type' | 'trait') ;
"#

def rustTypes : String := r#"
class _type = abstract_type reference_type metavariable pointer_type generic_type
  scoped_type_identifier tuple_type unit_type array_type function_type type_identifier
  macro_invocation never_type dynamic_type bounded_type removed_trait_bound primitive_type ;

union _type_identifier = type_identifier ;
union _field_identifier = field_identifier ;
_type_identifier = identifier -> type_identifier ;
_field_identifier = identifier -> field_identifier ;
_primitive = /(?:[ui](?:8|16|32|64|128|size)|f32|f64|bool|str|char)\b/ ;

union _path_start = self super crate metavariable identifier scoped_identifier generic_type
  bracketed_type ;
_path_start = self | super | crate | metavariable | identifier | _rooted_name -> scoped_identifier
  | _turbofish -> generic_type | bracketed_type &'::' ;
_rooted_name = '::' name:identifier ;
_turbofish = type:_type_identifier '::' type_arguments:type_arguments &'::' ;
_longer_turbofish = type:$_ '::' type_arguments:type_arguments &'::' ;
scoped_identifier = path:$_ '::' name:(super | identifier) ;
_path ::= _turbofish -> generic_type | _path_start
  | [1: scoped_identifier] _longer_turbofish -> generic_type
  | [1] scoped_identifier ;
_open_path ::= _turbofish -> generic_type | _path_start &'::'
  | [1: scoped_identifier] _longer_turbofish -> generic_type
  | [1] scoped_identifier &'::' ;
_type_in_expression = (path:_open_path)? '::' name:_type_identifier ;
_open_type_path ::= _first_generic -> generic_type | _turbofish -> generic_type | bracketed_type
    | _path_start &'::'
  | [1] _scoped_generic -> generic_type
  | [1: scoped_identifier] _longer_turbofish -> generic_type
  | [1] scoped_identifier &'::' ;
_first_generic = type:_type_identifier type_arguments:type_arguments &'::' ;
_scoped_generic = type:(_scoped_type -> scoped_type_identifier) type_arguments:type_arguments &'::' ;
_scoped_type = path:$_ '::' name:_type_identifier ;
scoped_type_identifier = (path:_open_type_path)? '::' name:_type_identifier ;
bracketed_type = "<" (qualified_type | _type) ">" ;
qualified_type = type:_type 'as' alias:_type ;
lifetime = "'" (/[_\p{XID_Start}][_\p{XID_Continue}]*/ -> identifier) ;

union _named_type = generic_type scoped_type_identifier type_identifier primitive_type metavariable ;
_named_type = generic_type | scoped_type_identifier | _primitive -> primitive_type | metavariable
  | _type_identifier | '_' -> type_identifier ;
_type ::= reference_type | pointer_type | function_type | abstract_type | dynamic_type | unit_type
    | tuple_type | array_type | never_type | removed_trait_bound | macro_invocation | _named_type
    | _lifetime_bounded -> bounded_type
  | [1] bounded_type ;
bounded_type = $_type '+' (lifetime | _type@2) ;
_lifetime_bounded = lifetime '+' _type@2 ;
array_type = '[' element:_type (';' length:_expression)? ']' ;
for_lifetimes = 'for' "<" lifetime (',' lifetime)* ','? ">" ;
function_type = for_lifetimes? (trait:(scoped_type_identifier | _type_identifier) parameters:parameters
  | function_modifiers? 'fn' parameters:parameters) ('->' return_type:_type@2)? ;
tuple_type = '(' _type (',' _type)* ','? ')' ;
unit_type = '(' ')' ;
generic_type = type:(scoped_type_identifier | _type_identifier) type_arguments:type_arguments ;
type_arguments = "<" _type_argument (',' _type_argument)* ','? ">" ;
_type_argument = (type_binding | lifetime !'+' | block | _literal | _type) trait_bounds? ;
type_binding = name:_type_identifier (type_arguments:type_arguments)? ('=' type:_type | trait_bounds) ;
reference_type = "&" lifetime? mutable_specifier? type:_type@2 ;
pointer_type = '*' ('const' | mutable_specifier) type:_type@2 ;
never_type = '!' ;
abstract_type = 'impl' ('for' type_parameters)? trait:_opaque ;
union _opaque = bounded_type function_type generic_type scoped_type_identifier type_identifier
  removed_trait_bound tuple_type ;
_opaque ::= function_type | tuple_type | removed_trait_bound | _named_type
    | _lifetime_bounded -> bounded_type
  | [1] bounded_type ;
dynamic_type = 'dyn' trait:(higher_ranked_trait_bound | function_type | tuple_type | _named_type) ;
"#

def rustMacros : String := r#"
macro_invocation = macro:_path '!' (delim_token_tree -> token_tree) ;
delim_token_tree = '(' _delim_tokens* ')' | '[' _delim_tokens* ']' | '\x7b' _delim_tokens* '\x7d' ;
_delim_tokens = delim_token_tree -> token_tree | _non_special_token | '$' ;
macro_definition = 'macro_rules' ^'!' name:identifier ('(' _macro_rules ')' ';' | '[' _macro_rules ']' ';'
  | '\x7b' _macro_rules '\x7d') ;
_macro_rules = (macro_rule ';')* macro_rule? ;
macro_rule = left:token_tree_pattern '=>' right:token_tree ;
_token_pattern = token_tree_pattern | token_repetition_pattern | token_binding_pattern | metavariable
  | _non_special_token ;
token_tree_pattern = '(' _token_pattern* ')' | '[' _token_pattern* ']' | '\x7b' _token_pattern* '\x7d' ;
token_binding_pattern = name:metavariable ':' type:fragment_specifier ;
token_repetition_pattern = '$' '(' _token_pattern* ')' /[^+*?]+/? ('+' | '*' | '?') ;
fragment_specifier = 'block' | 'expr_2021' | 'expr' | 'ident' | 'item' | 'lifetime' | 'literal' | 'meta'
  | 'pat_param' | 'pat' | 'path' | 'stmt' | 'tt' | 'ty' | 'vis' ;
token_tree = '(' _tokens* ')' | '[' _tokens* ']' | '\x7b' _tokens* '\x7d' ;
_tokens = token_tree | token_repetition | metavariable | _non_special_token ;
token_repetition = '$' '(' _tokens* ')' /[^+*?]+/? ('+' | '*' | '?') ;
_non_special_token = _literal | mutable_specifier | self | super | crate | _primitive -> primitive_type
  | _sign | _token_word | /(?:r#)?[_\p{XID_Start}][_\p{XID_Continue}]*/ -> identifier | "'" ;
_sign = '<<=' | '>>=' | '...' | '..=' | '&&' | '||' | '<<' | '>>' | '+=' | '-=' | '*=' | '/=' | '%=' | '^='
  | '&=' | '|=' | '==' | '!=' | '>=' | '<=' | '..' | '::' | '->' | '=>' | '+' | '-' | '*' | '/' | '%' | '^'
  | '!' | '&' | '|' | '=' | '>' | '<' | '@' | '_' | '.' | ',' | ';' | ':' | '#' | '?' ;
_token_word = 'as' | 'async' | 'await' | 'break' | 'const' | 'continue' | 'default' | 'enum' | 'fn' | 'for'
  | 'gen' | 'if' | 'impl' | 'let' | 'loop' | 'match' | 'mod' | 'pub' | 'return' | 'static' | 'struct' | 'trait'
  | 'type' | 'union' | 'unsafe' | 'use' | 'where' | 'while' ;
"#

def rustPatterns : String := r#"
class _pattern = _literal_pattern identifier scoped_identifier generic_pattern tuple_pattern
  tuple_struct_pattern struct_pattern ref_pattern slice_pattern captured_pattern reference_pattern
  remaining_field_pattern mut_pattern range_pattern or_pattern const_block macro_invocation ;

_pattern ::= range_pattern | _literal_pattern | ref_pattern | mut_pattern | reference_pattern
    | tuple_pattern | slice_pattern | const_block | remaining_field_pattern | '_' | captured_pattern
    | macro_invocation | tuple_struct_pattern | struct_pattern | generic_pattern | _path
    | _led_pattern -> or_pattern
  | [1] or_pattern ;
or_pattern = $_pattern '|' _pattern@2 ;
_led_pattern = '|' _pattern@2 ;
generic_pattern = _path '::' type_arguments:type_arguments ;
tuple_pattern = '(' (_pattern (',' _pattern)*)? ','? ')' ;
slice_pattern = '[' (_pattern (',' _pattern)*)? ','? ']' ;
tuple_struct_pattern = type:_path '(' (_pattern (',' _pattern)*)? ','? ')' ;
struct_pattern = type:(_type_in_expression -> scoped_type_identifier | _type_identifier) '\x7b'
  (_field_or_rest (',' _field_or_rest)*)? ','? '\x7d' ;
_field_or_rest = remaining_field_pattern | field_pattern ;
field_pattern = 'ref'? mutable_specifier? (name:_field_identifier ':' pattern:_pattern
  | name:(identifier -> shorthand_field_identifier)) ;
remaining_field_pattern = '..' ;
mut_pattern = mutable_specifier _pattern@2 ;
range_pattern = left:_range_end ('...' | '..=' | '..') (right:_range_end)?
  | ('..=' | '..') right:_range_end ;
union _range_end = _literal_pattern ;
_range_end = _literal_pattern | _path ;
ref_pattern = 'ref' _pattern@2 ;
captured_pattern = identifier '@' _pattern@2 ;
reference_pattern = "&" mutable_specifier? _pattern@2 ;
"#

/-- Expressions that stand in either form. -/
def rustExpressions : String := r#"
class _expression = unary_expression reference_expression try_expression binary_expression
  assignment_expression compound_assignment_expr type_cast_expression call_expression
  return_expression yield_expression _literal identifier self scoped_identifier generic_function
  await_expression field_expression array_expression tuple_expression macro_invocation
  unit_expression break_expression continue_expression index_expression metavariable
  closure_expression parenthesized_expression struct_expression unsafe_block async_block gen_block
  try_block block if_expression match_expression while_expression loop_expression for_expression
  const_block range_expression ;
union _plain_expression = _expression ;
union _expression_ending_with_block = _expression ;

_expression_ending_with_block = unsafe_block | async_block | gen_block | try_block | if_expression
  | match_expression | while_expression | loop_expression | for_expression | const_block | block ;
_expression_start = struct_expression | _literal | macro_invocation | _expression_ending_with_block
  | unit_expression | parenthesized_expression | tuple_expression | array_expression
  | continue_expression ;
union _expression_start = _expression ;
union _plain_start = _expression ;
_plain_start = _literal | macro_invocation | _expression_ending_with_block | unit_expression
  | parenthesized_expression | tuple_expression | array_expression | continue_expression ;

try_expression = $_expression '?' ;
call_expression = function:$_ arguments:arguments ;
generic_function = function:$_ '::' type_arguments:type_arguments ;
field_expression = value:$_expression '.' field:(_field_identifier | integer_literal) ;
await_expression = $_expression '.' 'await' ;
index_expression = $_expression '[' _expression ']' ;
type_cast_expression = value:$_expression 'as' type:_type@2 ;
arguments = '(' (_argument (',' _argument)*)? ','? ')' ;
_argument = attribute_item* _expression ;
array_expression = '[' attribute_item* (_expression ';' length:_expression
  | (_argument (',' _argument)*)? ','?) ']' ;
parenthesized_expression = '(' _expression ')' ;
tuple_expression = '(' attribute_item* _expression ',' (_expression ',')* _expression? ')' ;
unit_expression = '(' ')' ;
generic_type_with_turbofish = type:(_open_path | _type_identifier) '::' type_arguments:type_arguments ;
struct_expression = name:(generic_type_with_turbofish
  | _type_in_expression -> scoped_type_identifier | _type_identifier) body:field_initializer_list ;
field_initializer_list = '\x7b' (_initializer (',' _initializer)*)? ','? '\x7d' ;
_initializer = base_field_initializer | field_initializer | shorthand_field_initializer ;
shorthand_field_initializer = attribute_item* identifier ;
field_initializer = attribute_item* field:(_field_identifier | integer_literal) ':' value:_expression ;
base_field_initializer = '..' _expression ;
continue_expression = 'continue' label? ;

if_expression = 'if' condition:_condition consequence:block (alternative:else_clause)? ;
let_condition = 'let' pattern:_pattern '=' value:_plain_expression@5 ;
_let_chain = (let_condition | _plain_expression@4) ('&&' (let_condition | _plain_expression@5))+ ;
_condition = _let_chain -> let_chain | let_condition | _plain_expression ;
_guard = _let_chain -> let_chain | let_condition | _expression ;
else_clause = 'else' (block | if_expression) ;
match_expression = 'match' value:_plain_expression body:match_block ;
match_block = '\x7b' match_arm* '\x7d' ;
match_arm = (attribute_item | inner_attribute_item)* pattern:match_pattern '=>'
  (value:_expression_ending_with_block !_goes_on ','? | value:_expression (',' | &'\x7d')) ;
match_pattern = _pattern ('if' condition:_guard)? ;
while_expression = (label ':')? 'while' condition:_condition body:block ;
loop_expression = (label ':')? 'loop' body:block ;
for_expression = (label ':')? 'for' pattern:_pattern 'in' value:_plain_expression body:block ;
const_block = 'const' body:block ;
closure_parameters = "|" (_closure_parameter (',' _closure_parameter)*)? ','? "|" ;
_closure_parameter = !"|" (parameter_of_closure -> parameter | _pattern@2) ;
parameter_of_closure = mutable_specifier? pattern:_pattern@2 ':' type:_type ;
label = "'" (/[_\p{XID_Start}][_\p{XID_Continue}]*/ -> identifier) ;
unsafe_block = 'unsafe' block ;
async_block = 'async' 'move'? block ;
gen_block = 'gen' 'move'? block ;
try_block = 'try' block ;
block = (label ':')? '\x7b' _statement* _expression? '\x7d' ;
"#

/-- The operators of a form of expressions, which starts like `start`. -/
def rustOperators (name start : String) : String :=
  (r#"NAME ::= NAME_closure -> closure_expression | NAME_return -> return_expression
    | NAME_yield -> yield_expression | NAME_break -> break_expression
    | NAME_unary -> unary_expression | NAME_reference -> reference_expression
    | NAME_range_to -> range_expression | START | _path | '_' -> identifier
  | [16: identifier scoped_identifier field_expression] generic_function
  | [16] call_expression
  | [15] await_expression
  | [15] field_expression
  | [15] index_expression
  | [14] try_expression
  | [12] type_cast_expression
  | [11] NAME_times -> binary_expression
  | [10] NAME_plus -> binary_expression
  | [9] NAME_shift -> binary_expression
  | [8] NAME_bit_and -> binary_expression
  | [7] NAME_bit_xor -> binary_expression
  | [6] NAME_bit_or -> binary_expression
  | [5] NAME_compare -> binary_expression
  | [4] NAME_and -> binary_expression
  | [3] NAME_or -> binary_expression
  | [2] NAME_range -> range_expression
  | [1] NAME_assign -> assignment_expression
  | [1] NAME_update -> compound_assignment_expr ;
NAME_closure = 'static'? 'async'? 'move'? parameters:closure_parameters
  (('->' return_type:_type)? body:block !_goes_on | body:('_' | NAME)) ;
NAME_return = 'return' NAME? ;
NAME_yield = 'yield' NAME? ;
NAME_break = 'break' label? NAME? ;
NAME_unary = ("-" | "*" | '!') NAME@13 ;
NAME_reference = "&" ('raw' ('const' | mutable_specifier) !')' !'.' | mutable_specifier?) value:NAME@13 ;
NAME_range_to = ('..=' | '...') NAME@3 | '..' (!_after_range NAME@3)? ;
NAME_range = $_expression (('..=' | '...') NAME@3 | '..' (!_after_range NAME@3)?) ;
NAME_times = left:$_expression operator:('*' | '/' | '%') right:NAME@12 ;
NAME_plus = left:$_expression operator:('+' | '-') right:NAME@11 ;
NAME_shift = left:$_expression operator:('<<' | '>>') right:NAME@10 ;
NAME_bit_and = left:$_expression operator:'&' right:NAME@9 ;
NAME_bit_xor = left:$_expression operator:'^' right:NAME@8 ;
NAME_bit_or = left:$_expression operator:'|' right:NAME@7 ;
NAME_compare = left:$_expression operator:('==' | '!=' | '<=' | '>=' | '<' | '>') right:NAME@6 ;
NAME_and = left:$_expression operator:'&&' right:NAME@5 ;
NAME_or = left:$_expression operator:'||' right:NAME@4 ;
NAME_assign = left:$_expression '=' right:NAME@2 ;
NAME_update = left:$_expression operator:('+=' | '-=' | '*=' | '/=' | '%=' | '&=' | '|=' | '^=' | '<<='
  | '>>=') right:NAME@2 ;
"#.replace "NAME" name).replace "START" start

def rustText : String :=
  rustTokens ++ rustDeclarations ++ rustTypes ++ rustMacros ++ rustPatterns ++ rustExpressions ++
    "_after_range = '-' | '*' | '&' | '|' | '[' | '<' ;\n" ++
    rustOperators "_expression" "_expression_start" ++
    (rustOperators "_plain_expression" "_plain_start").replace
      "'..' (!_after_range " "'..' (!_after_range !'\x7b' "

end RuleLint.Grammars
