import RuleLint.Syntax.Grammar.Reader

/-!
# The grammar of JavaScript

With the elements that documents are built of in JSX.
-/

namespace RuleLint.Grammars

def javascriptTokens : String := r#"
root program ;
item statement ;
blank /[\s\p{Zs}\x{FEFF}\x{2028}\x{2029}\x{2060}\x{200B}]/ ;
extra comment html_comment ;
word identifier ;
reserved break case catch class const continue debugger default delete do else export extends
  false finally for function if import in instanceof new null return super switch this throw
  true try typeof undefined var void while with ;

comment = /\/\/[^\r\n\x{2028}\x{2029}]*|\/\*[^*]*\*+(?:[^\/*][^*]*\*+)*\// ;
html_comment = /<!--[^\r\n\x{2028}\x{2029}]*/ ;
hash_bang_line = /#!.*/ ;

identifier = /(?:[^\x00-\x1F\s\p{Zs}0-9:;`"'@#.,|^&<=>+\-*\/\\%?!~()\[\]\x7b\x7d\x{FEFF}\x{2060}\x{200B}\x{2028}\x{2029}]|\\u[0-9a-fA-F]{4}|\\u\x7b[0-9a-fA-F]+\x7d)(?:[^\x00-\x1F\s\p{Zs}:;`"'@#.,|^&<=>+\-*\/\\%?!~()\[\]\x7b\x7d\x{FEFF}\x{2060}\x{200B}\x{2028}\x{2029}]|\\u[0-9a-fA-F]{4}|\\u\x7b[0-9a-fA-F]+\x7d)*/ ;
property_identifier = /(?:[^\x00-\x1F\s\p{Zs}0-9:;`"'@#.,|^&<=>+\-*\/\\%?!~()\[\]\x7b\x7d\x{FEFF}\x{2060}\x{200B}\x{2028}\x{2029}]|\\u[0-9a-fA-F]{4}|\\u\x7b[0-9a-fA-F]+\x7d)(?:[^\x00-\x1F\s\p{Zs}:;`"'@#.,|^&<=>+\-*\/\\%?!~()\[\]\x7b\x7d\x{FEFF}\x{2060}\x{200B}\x{2028}\x{2029}]|\\u[0-9a-fA-F]{4}|\\u\x7b[0-9a-fA-F]+\x7d)*/ ;
private_property_identifier = /#[^\x00-\x1F\s\p{Zs}0-9:;`"'@#.,|^&<=>+\-*\/\\%?!~()\[\]\x7b\x7d\x{FEFF}][^\x00-\x1F\s\p{Zs}:;`"'@#.,|^&<=>+\-*\/\\%?!~()\[\]\x7b\x7d\x{FEFF}]*/ ;
number = /0[xX][0-9a-fA-F](?:_?[0-9a-fA-F])*n?|0[oO][0-7](?:_?[0-7])*n?|0[bB][01](?:_?[01])*n?|(?:[0-9](?:_?[0-9])*\.?(?:[0-9](?:_?[0-9])*)?|\.[0-9](?:_?[0-9])*)(?:[eE][+-]?[0-9](?:_?[0-9])*)?n?/ ;
string = '"' (^/[^"\\\r\n]+/ -> string_fragment | escape_sequence)* ^'"'
  | '\'' (^/[^'\\\r\n]+/ -> string_fragment | escape_sequence)* ^'\'' ;
escape_sequence = ^/\\(?:[^xu0-7\r\n]|[0-7][0-7]?[0-7]?|x[0-9a-fA-F]{2}|u[0-9a-fA-F]{4}|u\x7b[0-9a-fA-F]+\x7d|\r?[\n\x{2028}\x{2029}])/ ;
template_string = '`' (^_template_chars -> string_fragment | escape_sequence | template_substitution
  | ^/\$/ -> string_fragment)* ^'`' ;
_template_chars = /(?:[^`\\$]|\$+[^`\\$\x7b])+/ ;
template_substitution = ^'$\x7b' _expressions '\x7d' ;
regex = "/" pattern:regex_pattern ^"/" flags:regex_flags? ;
regex_pattern = ^/(?:\[(?:\\.|[^\]\n\\])*\]|\\.|[^\/\\\[\n])+/ ;
regex_flags = ^/[a-z]+/ ;
this = 'this' ;
true = 'true' ;
false = 'false' ;
null = 'null' ;
undefined = 'undefined' ;
super = 'super' ; import = 'import' ;
optional_chain = '?.' ;
"#

def javascriptStatements : String := r#"
class statement = export_statement import_statement debugger_statement expression_statement
  declaration statement_block if_statement switch_statement for_statement for_in_statement
  while_statement do_statement try_statement with_statement break_statement continue_statement
  return_statement throw_statement empty_statement labeled_statement ;
class declaration = function_declaration generator_function_declaration class_declaration
  lexical_declaration variable_declaration ;

program = hash_bang_line? statement* ;

statement = statement_block | declaration | export_statement | import_statement
  | debugger_statement | if_statement | switch_statement | for_in_statement | for_statement
  | while_statement | do_statement | try_statement | with_statement | break_statement
  | continue_statement | return_statement | throw_statement | empty_statement
  | labeled_statement | expression_statement ;
declaration = function_declaration | generator_function_declaration | class_declaration
  | lexical_declaration | variable_declaration ;

_semicolon = ';' | %semicolon ;
_word_semicolon = ';' | %semicolon_word ;

export_statement = 'export' ('*' _from_clause | namespace_export _from_clause
      | export_clause _from_clause | export_clause) _word_semicolon
  | (decorator:decorator)* 'export' ('default' (declaration:declaration | value:expression _semicolon)
      | declaration:declaration) ;
namespace_export = '*' 'as' _module_export_name ;
export_clause = '\x7b' (export_specifier (',' export_specifier)*)? ','? '\x7d' ;
export_specifier = name:_module_export_name ('as' alias:_module_export_name)? ;
_module_export_name = identifier | string | 'default' | property_identifier -> identifier ;

import_statement = 'import' !'(' !'.' (import_clause _from_clause | source:string)
  import_attribute? _word_semicolon ;
import_clause = namespace_import | named_imports | identifier (',' (namespace_import | named_imports))? ;
_from_clause = 'from' source:string ;
namespace_import = '*' 'as' identifier ;
named_imports = '\x7b' (import_specifier (',' import_specifier)*)? ','? '\x7d' ;
import_specifier = name:(_module_export_name | 'default' -> identifier) 'as' alias:identifier
  | name:identifier ;
import_attribute = 'with' object ;

expression_statement = _expressions _semicolon ;
variable_declaration = 'var' variable_declarator (',' variable_declarator)* _semicolon ;
lexical_declaration = kind:('let' | 'const') variable_declarator (',' variable_declarator)* _semicolon ;
variable_declarator = name:(identifier | 'undefined' -> identifier | _destructuring_pattern)
  _initializer? ;
_initializer = '=' value:expression ;
statement_block = '\x7b' statement* '\x7d' ;
else_clause = 'else' statement ;
if_statement = 'if' condition:parenthesized_expression consequence:statement
  (alternative:else_clause)? ;
switch_statement = 'switch' value:parenthesized_expression body:switch_body ;
for_statement = 'for' '('
  (initializer:(lexical_declaration | variable_declaration) | initializer:_expressions ';'
    | initializer:empty_statement)
  condition:(_expressions ';' | empty_statement) increment:_expressions? ')' body:statement ;
for_in_statement = 'for' 'await'? _for_header body:statement ;
_for_header = '('
  ( kind:'var' left:(identifier | _destructuring_pattern) _initializer?
  | kind:('let' | 'const') left:(identifier | _destructuring_pattern)
  | left:_lhs_expression )
  operator:('in' | 'of') right:_expressions ')' ;
while_statement = 'while' condition:parenthesized_expression body:statement ;
do_statement = 'do' body:statement 'while' condition:parenthesized_expression _word_semicolon? ;
try_statement = 'try' body:statement_block (handler:catch_clause)? (finalizer:finally_clause)? ;
with_statement = 'with' object:parenthesized_expression body:statement ;
break_statement = 'break' (%same_line label:(identifier -> statement_identifier))? _word_semicolon ;
continue_statement = 'continue' (%same_line label:(identifier -> statement_identifier))? _word_semicolon ;
debugger_statement = 'debugger' _word_semicolon ;
return_statement = 'return' (%semicolon_word | _expressions _semicolon | ';') ;
throw_statement = 'throw' _expressions _semicolon ;
empty_statement = ';' ;
labeled_statement = label:(identifier -> statement_identifier) ':' body:statement ;

switch_body = '\x7b' (switch_case | switch_default)* '\x7d' ;
switch_case = 'case' value:_expressions ':' body:statement* ;
switch_default = 'default' ':' body:statement* ;
catch_clause = 'catch' ('(' parameter:(identifier | _destructuring_pattern) ')')? body:statement_block ;
finally_clause = 'finally' body:statement_block ;
parenthesized_expression = '(' _expressions ')' ;

class_declaration = (decorator:decorator)* 'class' name:identifier class_heritage? body:class_body ;
class_heritage = 'extends' expression@26 ;
function_declaration = 'async'? 'function' name:identifier _call_signature body:statement_block ;
generator_function_declaration = 'async'? 'function' '*' name:identifier _call_signature
  body:statement_block ;
"#

def javascriptExpressions : String := r#"
class expression = primary_expression jsx_element jsx_self_closing_element assignment_expression
  augmented_assignment_expression await_expression unary_expression binary_expression
  ternary_expression update_expression new_expression yield_expression ;
class primary_expression = subscript_expression member_expression parenthesized_expression
  undefined identifier this super number string template_string regex true false null object
  array function_expression arrow_function generator_function class meta_property
  call_expression ;
class pattern = member_expression subscript_expression undefined identifier object_pattern
  array_pattern rest_pattern ;
union _object = primary_expression expression ;
union _word_expression = function_expression generator_function class this super true false null
  undefined ;
union _dialect_expression = jsx_element jsx_self_closing_element ;
union _jsx_element = jsx_element jsx_self_closing_element ;
union _destructuring_pattern = object_pattern array_pattern ;
union _lhs_expression = member_expression subscript_expression undefined identifier object_pattern
  array_pattern parenthesized_expression ;

primary_expression = expression@29 ;
_lhs_expression = _destructuring_pattern | expression@29 ;
_dialect_expression = _jsx_element ;

_expressions = sequence_expression | expression ;
sequence_expression = expression (',' expression)+ ;

expression ::= arrow_function | _dialect_expression | _pattern_assignment -> assignment_expression
  | _word_expression | await_expression | yield_expression | new_expression
  | meta_property | import &'(' | _prefix_update -> update_expression | unary_expression
  | number | string | template_string | regex | array | object | parenthesized_expression
  | _private_test -> binary_expression | identifier
  | [30] member_expression
  | [30] _chain_call -> call_expression
  | [30] subscript_expression
  | [29] _template_call -> call_expression
  | [28: identifier undefined member_expression subscript_expression parenthesized_expression
      non_null_expression] assignment_expression
  | [28: identifier undefined member_expression subscript_expression parenthesized_expression
      non_null_expression] augmented_assignment_expression
  | [27] call_expression
  | [26] update_expression
  | [24] _power -> binary_expression
  | [23] _times -> binary_expression
  | [22] _plus -> binary_expression
  | [21] _shift -> binary_expression
  | [20] _relation -> binary_expression
  | [19] _equality -> binary_expression
  | [18] _bit_and -> binary_expression
  | [17] _bit_xor -> binary_expression
  | [16] _bit_or -> binary_expression
  | [15] _and -> binary_expression
  | [14] _or -> binary_expression
  | [13] _default -> binary_expression
  | [13] ternary_expression ;

_word_expression = function_expression | generator_function | class | this | super | true | false
  | null | undefined ;

member_expression = object:$_object ('.' | optional_chain:optional_chain)
  property:(private_property_identifier | property_identifier) ;
subscript_expression = object:$_object (optional_chain:optional_chain)? '[' index:_expressions ']' ;
_chain_call = function:$primary_expression optional_chain:optional_chain arguments:arguments ;
_template_call = function:$_object arguments:template_string ;
call_expression = function:$expression arguments:arguments ;
new_expression = 'new' constructor:(new_expression | primary_expression) (arguments:arguments)? ;
await_expression = 'await' expression@25 ;
yield_expression = 'yield' ('*' expression | (%same_line expression)?) ;
assignment_expression = left:$_ '=' right:expression ;
_pattern_assignment = left:_destructuring_pattern '=' right:expression ;
augmented_assignment_expression = left:$_
  operator:('+=' | '-=' | '*=' | '/=' | '%=' | '^=' | '&=' | '|=' | '>>=' | '>>>=' | '<<=' | '**='
    | '&&=' | '||=' | '??=') right:expression ;
update_expression = argument:$expression %same_line operator:('++' | '--') ;
_prefix_update = operator:('++' | '--') argument:expression@26 ;
unary_expression = operator:('!' | '~' | '-' | '+' | 'typeof' | 'void' | 'delete')
  argument:expression@25 ;
ternary_expression = condition:$expression '?' consequence:expression ':' alternative:expression ;
_power = left:$expression operator:'**' right:expression@24 ;
_times = left:$expression operator:('*' | '/' | '%') right:expression@24 ;
_plus = left:$expression operator:('+' | '-') right:expression@23 ;
_shift = left:$expression operator:('>>' | '>>>' | '<<') right:expression@22 ;
_relation = left:$expression operator:('<' | '<=' | '>=' | '>' | 'instanceof' | 'in')
  right:expression@21 ;
_private_test = left:private_property_identifier operator:'in' right:expression@21 ;
_equality = left:$expression operator:('==' | '===' | '!=' | '!==') right:expression@20 ;
_bit_and = left:$expression operator:'&' right:expression@19 ;
_bit_xor = left:$expression operator:'^' right:expression@18 ;
_bit_or = left:$expression operator:'|' right:expression@17 ;
_and = left:$expression operator:'&&' right:expression@16 ;
_or = left:$expression operator:'||' right:expression@15 ;
_default = left:$expression operator:'??' right:expression@14 ;

object = '\x7b' (_object_item? (',' _object_item?)*) '\x7d' ;
_object_item = spread_element | pair | method_definition | identifier -> shorthand_property_identifier ;
pair = key:_property_name ':' value:expression ;
spread_element = '...' expression ;
array = '[' _array_item? (',' _array_item?)* ']' ;
_array_item = spread_element | expression ;
_destructuring_pattern = object_pattern | array_pattern ;
object_pattern = '\x7b' (_object_pattern_item? (',' _object_pattern_item?)*) '\x7d' ;
_object_pattern_item = pair_pattern | rest_pattern | object_assignment_pattern
  | identifier -> shorthand_property_identifier_pattern ;
pair_pattern = key:_property_name ':' value:(assignment_pattern | pattern) ;
object_assignment_pattern = left:(_destructuring_pattern
    | identifier -> shorthand_property_identifier_pattern) '=' right:expression ;
array_pattern = '[' _array_pattern_item? (',' _array_pattern_item?)* ']' ;
_array_pattern_item = assignment_pattern | pattern ;
assignment_pattern = left:pattern '=' right:expression ;
pattern = _destructuring_pattern | rest_pattern | expression@29 ;
rest_pattern = '...' _lhs_expression ;
_property_name = property_identifier | private_property_identifier | string | number
  | computed_property_name ;
computed_property_name = '[' expression ']' ;

class = (decorator:decorator)* 'class' (name:identifier)? class_heritage? body:class_body ;
class_static_block = 'static' body:statement_block ;
decorator = '@' _decorator_target ;
_decorator_target ::= identifier
  | [2] _nested_part -> member_expression
  | [1] _decorator_call -> call_expression ;
_decorator_call = function:$_ arguments:arguments ;
_nested_part = object:$_ '.' property:property_identifier ;

function_expression = 'async'? 'function' (name:identifier)? _call_signature body:statement_block ;
generator_function = 'async'? 'function' '*' (name:identifier)? _call_signature body:statement_block ;
arrow_function = ('async' !'=>')? (_call_signature | parameter:identifier) '=>'
  body:(statement_block | expression) ;
_call_signature = parameters:formal_parameters ;
formal_parameters = '(' (_formal_parameter (',' _formal_parameter)* ','?)? ')' ;
_formal_parameter = assignment_pattern | pattern ;
arguments = '(' (_array_item? (',' _array_item?)*) ')' ;
meta_property = 'new' '.' 'target' | 'import' '.' 'meta' ;
"#

def javascriptMembers : String := r#"
class_body = '\x7b' (member:method_definition ';'? | member:field_definition _semicolon
  | member:class_static_block | ';')* '\x7d' ;
field_definition = (decorator:decorator)* ('static' &_property_name)? property:_property_name
  _initializer? ;
method_definition = (decorator:decorator)* ('static' &_method_start)? ('async' &_method_start)?
  (('get' | 'set' | '*') &_property_name)? name:_property_name parameters:formal_parameters
  body:statement_block ;
_method_start = _property_name | '*' ;
"#

def javascriptElements : String := r#"
_jsx_element = jsx_self_closing_element | jsx_element ;
jsx_element = open_tag:jsx_opening_element _jsx_child* close_tag:jsx_closing_element ;
_jsx_child = ^jsx_text | html_character_reference | _jsx_element | jsx_expression ;
jsx_text = /[^<>\x7b\x7d&]*[^<>\x7b\x7d&\s][^<>\x7b\x7d&]*|[^<>\x7b\x7d&\n\S][^<>\x7b\x7d&]*/ ;
html_character_reference = /&(?:#(?:[xX][0-9a-fA-F]+|[0-9]+)|[A-Za-z]+);/ ;
jsx_expression = '\x7b' (spread_element | _expressions)? '\x7d' ;
jsx_opening_element = "<" (name:_jsx_element_name (attribute:_jsx_attribute)*)? ">" ;
jsx_closing_element = "</" (name:_jsx_element_name)? ">" ;
jsx_self_closing_element = "<" name:_jsx_element_name (attribute:_jsx_attribute)* '/>' ;
_jsx_element_name = jsx_namespace_name | _jsx_word -> identifier | _nested_name ;
_jsx_word = /[a-zA-Z_$][a-zA-Z0-9_$]*-[a-zA-Z0-9_$\-]*/ ;
_jsx_identifier = _jsx_word -> identifier | identifier ;
_nested_name ::= identifier | [1] _nested_part -> member_expression ;
jsx_namespace_name = _jsx_identifier ':' _jsx_identifier ;
_jsx_attribute = jsx_attribute | jsx_expression ;
jsx_attribute = (jsx_namespace_name | /[a-zA-Z_$][a-zA-Z0-9_$\-]*/ -> property_identifier)
  ('=' (_jsx_string -> string | jsx_expression | _jsx_element))? ;
_jsx_string = '"' (^/(?:[^"&]|&[^#A-Za-z])+/ -> string_fragment | html_character_reference)* ^'"'
  | '\'' (^/(?:[^'&]|&[^#A-Za-z])+/ -> string_fragment | html_character_reference)* ^'\'' ;
"#

def javascriptText : String :=
  javascriptTokens ++ javascriptStatements ++ javascriptExpressions ++ javascriptMembers ++
    javascriptElements

end RuleLint.Grammars
