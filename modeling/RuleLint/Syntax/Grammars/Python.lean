import RuleLint.Syntax.Grammar.Reader

/-!
# The grammar of Python
-/

namespace RuleLint.Grammars

def pythonTokens : String := r#"
root module ;
item _piece ;
lines strict ;
blank /[\s\x{FEFF}\x{2060}\x{200B}]/ ;
extra comment line_continuation ;
word identifier ;
reserved False None True and as assert break class continue def del elif else except finally for
  from global if import in is lambda nonlocal not or pass raise return try while with yield ;

comment = /#.*/ ;
line_continuation = /\\\r?\n/ ;
identifier = /[_\p{XID_Start}][_\p{XID_Continue}]*/ ;
integer = /(?:0[xX](?:_?[0-9A-Fa-f])+[lL]?|0[oO](?:_?[0-7])+[lL]?|0[bB](?:_?[01])+[lL]?|(?:[0-9]+_?)+(?:[lL]|[jJ])?)/ ;
float = /(?:(?:[0-9]+_?)+\.(?:[0-9]+_?)*(?:[eE][+-]?(?:[0-9]+_?)+)?|(?:[0-9]+_?)*\.(?:[0-9]+_?)+(?:[eE][+-]?(?:[0-9]+_?)+)?|(?:[0-9]+_?)+[eE][+-]?(?:[0-9]+_?)+)[lLjJ]?/ ;
true = 'True' ;
false = 'False' ;
none = 'None' ;
ellipsis = '...' ;
escape_sequence = ^/\\(?:u[a-fA-F0-9]{4}|U[a-fA-F0-9]{8}|x[a-fA-F0-9]{2}|[0-9]{1,3}|\r?\n|['"abfrntv\\]|N\x7b[^\x7d]+\x7d)/ ;
escape_interpolation = ^/\x7b\x7b|\x7d\x7d/ ;
"#

def pythonStatements : String := r#"
class _simple_statement = future_import_statement import_statement import_from_statement
  print_statement assert_statement expression_statement return_statement delete_statement
  raise_statement pass_statement break_statement continue_statement global_statement
  nonlocal_statement exec_statement type_alias_statement ;
class _compound_statement = if_statement for_statement while_statement try_statement with_statement
  function_definition class_definition decorated_definition match_statement ;

module = _statement* ;
_piece = _statement | _simple_statement | expression ;
_statement = %line_start (_compound_statement | _simple_statements) ;
_simple_statements = _simple_statement (';' _simple_statement)* ';'? %line_end ;

_simple_statement = future_import_statement | import_from_statement | import_statement
  | assert_statement | return_statement | delete_statement | raise_statement | pass_statement
  | break_statement | continue_statement | global_statement | nonlocal_statement
  | type_alias_statement | _redirection | _whole_expression_statement | print_statement
  | exec_statement | expression_statement ;
union _redirection = print_statement ;
_redirection = &('print' '>>') print_statement ;
union _whole_expression_statement = expression_statement ;
_whole_expression_statement = expression_statement &(';' | %line_end) ;
_compound_statement = if_statement | for_statement | while_statement | try_statement
  | with_statement | function_definition | class_definition | decorated_definition
  | match_statement ;

import_statement = 'import' _import_list ;
import_prefix = "."+ ;
relative_import = import_prefix dotted_name? ;
future_import_statement = 'from' '__future__' 'import' (_import_list | '(' %free (_import_list ')')) ;
import_from_statement = 'from' module_name:(relative_import | dotted_name) 'import'
  (wildcard_import | '(' %free (_import_list ')') | _import_list) ;
_import_list = name:(aliased_import | dotted_name) (',' name:(aliased_import | dotted_name))* ','? ;
aliased_import = name:dotted_name 'as' alias:identifier ;
wildcard_import = '*' ;
dotted_name = identifier ('.' identifier)* ;

print_statement = 'print' (chevron (',' argument:expression)* ','?
  | argument:expression (',' argument:expression)* ','?) ;
chevron = '>>' expression ;
assert_statement = 'assert' expression (',' expression)* ;
expression_statement = assignment | augmented_assignment | yield
  | expression (',' expression)* ','? ;
return_statement = 'return' _expressions? ;
delete_statement = 'del' _expressions ;
_expressions = expression_list | expression ;
raise_statement = 'raise' _expressions? ('from' cause:expression)? ;
pass_statement = 'pass' ;
break_statement = 'break' ;
continue_statement = 'continue' ;
global_statement = 'global' identifier (',' identifier)* ;
nonlocal_statement = 'nonlocal' identifier (',' identifier)* ;
exec_statement = 'exec' code:(string | identifier) ('in' expression (',' expression)*)? ;
type_alias_statement = 'type' left:type '=' right:type ;

_suite = %block block | _simple_statements -> block | %line_end -> block ;
block = _statement+ %dedent ;
if_statement = 'if' condition:expression ':' consequence:_suite
  (%line_start alternative:elif_clause)* (%line_start alternative:else_clause)? ;
elif_clause = 'elif' condition:expression ':' consequence:_suite ;
else_clause = 'else' ':' body:_suite ;
for_statement = 'async'? 'for' left:_left_hand_side 'in' right:_expressions ':' body:_suite
  (%line_start alternative:else_clause)? ;
while_statement = 'while' condition:expression ':' body:_suite
  (%line_start alternative:else_clause)? ;
try_statement = 'try' ':' body:_suite
  ( (%line_start except_clause)+ (%line_start else_clause)? (%line_start finally_clause)?
  | (%line_start except_group_clause)+ (%line_start else_clause)? (%line_start finally_clause)?
  | %line_start finally_clause ) ;
except_clause = 'except' (expression (('as' | ',') expression)?)? ':' _suite ;
except_group_clause = 'except*' expression ('as' expression)? ':' _suite ;
finally_clause = 'finally' ':' _suite ;
with_statement = 'async'? 'with' with_clause ':' body:_suite ;
with_clause = '(' %free (with_item (',' with_item)* ','? ')') &':' | with_item (',' with_item)* ','? ;
with_item = value:expression ;
function_definition = 'async'? 'def' name:identifier (type_parameters:type_parameter)?
  parameters:parameters ('->' return_type:type)? ':' body:_suite ;
class_definition = 'class' name:identifier (type_parameters:type_parameter)?
  (superclasses:argument_list)? ':' body:_suite ;
decorated_definition = decorator (%line_start decorator)*
  %line_start definition:(class_definition | function_definition) ;
decorator = '@' expression %line_end ;

match_statement = 'match' subject:expression (',' subject:expression)* ','? ':'
  body:(%block _match_block -> block) ;
_match_block = (%line_start alternative:case_clause)+ %dedent ;
case_clause = 'case' case_pattern (',' case_pattern)* ','? (guard:if_clause)? ':'
  consequence:_suite ;
case_pattern = _as_pattern -> as_pattern | keyword_pattern | _simple_pattern ;
_as_pattern = (_simple_pattern -> case_pattern) 'as' identifier ;
_simple_pattern = union_pattern | _one_pattern ;
union_pattern = _one_pattern ('|' _one_pattern)+ ;
_one_pattern = class_pattern | splat_pattern | _list_pattern -> list_pattern
  | _tuple_pattern -> tuple_pattern | dict_pattern | concatenated_string | string | true | false
  | none | complex_pattern | '-'? (float | integer) | '_' !'.' | dotted_name ;
_case_patterns = case_pattern (',' case_pattern)* ','? ;
_list_pattern = '[' %free (_case_patterns? ']') ;
_tuple_pattern = '(' %free (_case_patterns? ')') ;
dict_pattern = '\x7b' %free (((_key_value_pattern | splat_pattern)
  (',' (_key_value_pattern | splat_pattern))* ','?)? '\x7d') ;
_key_value_pattern = key:_simple_pattern ':' value:case_pattern ;
keyword_pattern = identifier '=' _simple_pattern ;
splat_pattern = ('**' | '*') ('_' | identifier) ;
class_pattern = dotted_name '(' %free (_case_patterns? ')') ;
complex_pattern = '-'? (float | integer) ('+' | '-') (float | integer) ;
"#

def pythonExpressions : String := r#"
class expression = comparison_operator not_operator boolean_operator lambda primary_expression
  conditional_expression named_expression as_pattern ;
class primary_expression = await binary_operator identifier string concatenated_string integer float
  true false none unary_operator attribute subscript call list list_comprehension dictionary
  dictionary_comprehension set set_comprehension tuple parenthesized_expression
  generator_expression ellipsis list_splat ;
class pattern = identifier subscript attribute list_splat_pattern tuple_pattern list_pattern ;
union _splat_target = identifier subscript attribute ;
class parameter = identifier typed_parameter default_parameter typed_default_parameter
  list_splat_pattern tuple_pattern keyword_separator positional_separator
  dictionary_splat_pattern ;

expression ::= named_expression | lambda | not_operator | concatenated_string | string | float
  | integer | true | false | none | ellipsis | await | unary_operator
  | list_comprehension | list | dictionary_comprehension | set_comprehension | dictionary | set
  | generator_expression | parenthesized_expression | tuple | list_splat_pattern -> list_splat
  | identifier
  | [22] attribute
  | [22] subscript
  | [22] call
  | [21] _power -> binary_operator
  | [19] _times -> binary_operator
  | [18] _plus -> binary_operator
  | [17] _shift -> binary_operator
  | [15] _bit_and -> binary_operator
  | [16] _bit_xor -> binary_operator
  | [14] _bit_or -> binary_operator
  | [13] comparison_operator
  | [11] _and -> boolean_operator
  | [10] _or -> boolean_operator
  | [4] as_pattern
  | [3] conditional_expression ;
primary_expression = expression@14 ;

named_expression = name:identifier ':=' value:expression ;
not_operator = 'not' argument:expression@12 ;
_and = left:$expression operator:'and' right:expression@12 ;
_or = left:$expression operator:'or' right:expression@11 ;
_power = left:$primary_expression operator:'**' right:primary_expression@21 ;
_times = left:$primary_expression operator:('*' | '@' | '/' | '%' | '//')
  right:primary_expression@20 ;
_plus = left:$primary_expression operator:('+' | '-') right:primary_expression@19 ;
_shift = left:$primary_expression operator:('<<' | '>>') right:primary_expression@18 ;
_bit_xor = left:$primary_expression operator:'^' right:primary_expression@17 ;
_bit_and = left:$primary_expression operator:'&' right:primary_expression@16 ;
_bit_or = left:$primary_expression operator:'|' right:primary_expression@15 ;
unary_operator = operator:('+' | '-' | '~') argument:primary_expression@20 ;
comparison_operator = $primary_expression (operators:('<' | '<=' | '==' | '!=' | '>=' | '>' | '<>'
  | 'in' | _not_in -> 'not in' | _is_not -> 'is not' | 'is') primary_expression)+ ;
_not_in = 'not' 'in' ;
_is_not = 'is' 'not' ;
lambda = 'lambda' (parameters:lambda_parameters)? ':' body:expression ;
lambda_parameters = _bare_parameter (',' _bare_parameter)* ','? ;
union _bare_parameter = parameter ;
_bare_parameter = default_parameter | list_splat_pattern | dictionary_splat_pattern | tuple_pattern
  | keyword_separator | positional_separator | identifier ;
conditional_expression = $expression 'if' expression@4 'else' expression ;
as_pattern = $expression 'as' alias:(_target -> as_pattern_target) ;
_target = expression@14 ;
await = 'await' primary_expression@21 ;

assignment = left:_left_hand_side (':' type:type ('=' right:_right_hand_side)?
  | '=' right:_right_hand_side) ;
augmented_assignment = left:_left_hand_side
  operator:('+=' | '-=' | '*=' | '/=' | '@=' | '//=' | '%=' | '**=' | '>>=' | '<<=' | '&=' | '^='
    | '|=') right:_right_hand_side ;
_left_hand_side = pattern_list | pattern ;
pattern_list = pattern (',' pattern)+ ','? | pattern ',' ;
_right_hand_side = assignment | augmented_assignment | yield | expression_list | expression ;
expression_list = expression (',' expression)+ ','? | expression ',' ;
yield = 'yield' ('from' expression | _expressions?) ;

pattern = tuple_pattern !('.' | '[' | '(') | list_pattern !('.' | '[' | '(') | list_splat_pattern
  | expression@22 ;
_patterns = pattern (',' pattern)* ','? ;
tuple_pattern = '(' %free (_patterns? ')') ;
list_pattern = '[' %free (_patterns? ']') ;
list_splat_pattern = '*' _splat_target ;
dictionary_splat_pattern = '**' _splat_target ;
_splat_target = expression@22 ;

parameters = '(' %free (_parameters? ')') ;
_parameters = parameter (',' parameter)* ','? ;
parameter = typed_default_parameter | typed_parameter | default_parameter | list_splat_pattern
  | dictionary_splat_pattern | tuple_pattern | keyword_separator | positional_separator
  | identifier ;
keyword_separator = '*' ;
positional_separator = '/' ;
default_parameter = name:(identifier | tuple_pattern) '=' value:expression ;
typed_parameter = (identifier | list_splat_pattern | dictionary_splat_pattern) ':' type:type ;
typed_default_parameter = name:identifier ':' type:type '=' value:expression ;

type = _generic_union -> union_type | generic_type | splat_type | expression ;
_generic_union = (_generic -> type) ('|' type)+ ;
_generic = generic_type ;
generic_type = identifier type_parameter ;
splat_type = ('**' | '*') identifier ;
type_parameter = '[' %free (_type_argument (',' _type_argument)* ','? ']') ;
_type_argument = _constrained -> type | type ;
_constrained = constrained_type ;
constrained_type = type ':' type ;

attribute = object:$primary_expression '.' attribute:identifier ;
subscript = value:$primary_expression '[' %free (subscript:(slice | expression)
  (',' subscript:(slice | expression))* ','? ']') ;
slice = expression? ':' expression? (':' expression?)? ;
call = function:$primary_expression arguments:(generator_expression | argument_list) ;
argument_list = '(' %free ((_argument (',' _argument)*)? ','? ')') ;
_argument = keyword_argument | list_splat | dictionary_splat
  | parenthesized_list_splat -> parenthesized_expression | expression ;
keyword_argument = name:identifier '=' value:expression ;
list_splat = '*' expression ;
dictionary_splat = '**' expression ;
parenthesized_list_splat = '(' %free ((parenthesized_list_splat -> parenthesized_expression
  | list_splat) ')') ;

list = '[' %free (_collection_elements? ']') ;
set = '\x7b' %free (_collection_elements '\x7d') ;
tuple = '(' %free (_collection_elements? ')') ;
_collection_elements = _collection_element (',' _collection_element)* ','? ;
_collection_element = yield | list_splat | parenthesized_list_splat | expression ;
dictionary = '\x7b' %free (((pair | dictionary_splat) (',' (pair | dictionary_splat))*)? ','? '\x7d') ;
pair = key:expression ':' value:expression ;
list_comprehension = '[' %free (body:expression _comprehension_clauses ']') ;
dictionary_comprehension = '\x7b' %free (body:pair _comprehension_clauses '\x7d') ;
set_comprehension = '\x7b' %free (body:expression _comprehension_clauses '\x7d') ;
generator_expression = '(' %free (body:expression _comprehension_clauses ')') ;
_comprehension_clauses = for_in_clause (for_in_clause | if_clause)* ;
for_in_clause = 'async'? 'for' left:_left_hand_side 'in' right:expression@4
  (',' right:expression@4)* ','? ;
if_clause = 'if' expression@4 ;
parenthesized_expression = '(' %free ((yield | expression) ')') ;
"#

def pythonInterpolation : String := r#"
concatenated_string = string string+ ;
interpolation = ^'\x7b' %free (expression:_inner_expression '='? (type_conversion:type_conversion)?
  (format_specifier:format_specifier)? '\x7d') ;
_inner_expression = yield | expression_list | expression ;
type_conversion = /![a-z]/ ;
format_specifier = ':' (^/[^\x7b\x7d\n]+/ | interpolation)* ;
"#

/-- The text of a quoted string. `start` is a pattern for what opens it, `quote` one for what closes it,
`char` one for the characters that stand for themselves, `escapes` what else may be in its parts, and
`parts` what may be between its parts. -/
def pythonQuoted (name start quote char escapes parts : String) : String :=
  name ++ " = (/" ++ start ++ "/ -> string_start) (^" ++ name ++ "_content -> string_content" ++ parts ++
    ")* (^/" ++ quote ++ "/ -> string_end) ;\n" ++
  name ++ "_content = (^/" ++ char ++ "+/" ++ escapes ++ " | ^/\\\\/)+ ;\n"

/-- A quote with the characters that may stand between two of it, those that may where braces mean
something, and what else may. -/
def pythonQuotes : List (String × String × String × String × String) :=
  [("_long_double", "\"\"\"", "[^\"\\\\]", "[^\"\\\\\\x7b\\x7d]", " | !^/\"\"\"/ ^/\"/"),
   ("_long_single", "'''", "[^'\\\\]", "[^'\\\\\\x7b\\x7d]", " | !^/'''/ ^/'/"),
   ("_double", "\"", "[^\"\\\\\\n]", "[^\"\\\\\\n\\x7b\\x7d]", ""),
   ("_single", "'", "[^'\\\\\\n]", "[^'\\\\\\n\\x7b\\x7d]", "")]

def pythonStrings : String :=
  let kinds := pythonQuotes.flatMap fun (name, quote, char, inner, lone) =>
    [(name ++ "_raw", "(?:[rR][bB]?|[bB][rR])" ++ quote, quote, char, lone ++ " | ^/\\\\(?s:.)/", ""),
     (name ++ "_formatted_raw", "(?:[fF][rR]|[rR][fF])" ++ quote, quote, inner,
       lone ++ " | ^escape_interpolation | ^/\\\\[^\\x7b\\x7d]/", " | interpolation"),
     (name ++ "_formatted", "[fF]" ++ quote, quote, inner,
       lone ++ " | ^escape_sequence | ^escape_interpolation", " | interpolation"),
     (name ++ "_plain", "[bBuU]?" ++ quote, quote, char, lone ++ " | ^escape_sequence", "")]
  "string = " ++ " | ".intercalate (kinds.map (·.1)) ++ " ;\n" ++
    String.join (kinds.map fun (name, start, quote, char, escapes, parts) =>
      pythonQuoted name start quote char escapes parts)

def pythonText : String :=
  pythonTokens ++ pythonStatements ++ pythonExpressions ++ pythonInterpolation ++ pythonStrings

end RuleLint.Grammars
