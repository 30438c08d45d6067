import RuleLint.Syntax.Grammars.JavaScript

/-!
# The grammar of TypeScript

What types add to JavaScript. There are two dialects: one with the elements of documents, and one in
which a type in angle brackets before an expression asserts its type.
-/

namespace RuleLint.Grammars

def typescriptStatements : String := r#"
class declaration = function_declaration generator_function_declaration class_declaration
  lexical_declaration variable_declaration function_signature abstract_class_declaration module
  internal_module type_alias_declaration enum_declaration interface_declaration import_alias
  ambient_declaration ;

_semicolon = ';' | %semicolon_type ;

declaration = function_declaration | generator_function_declaration | class_declaration
  | abstract_class_declaration | function_signature | enum_declaration | lexical_declaration
  | variable_declaration | module | internal_module | type_alias_declaration
  | interface_declaration | import_alias | ambient_declaration ;

statement = statement_block | export_statement | import_statement | declaration
  | debugger_statement | if_statement | switch_statement | for_in_statement | for_statement
  | while_statement | do_statement | try_statement | with_statement | break_statement
  | continue_statement | return_statement | throw_statement | empty_statement
  | labeled_statement | expression_statement ;

export_statement = 'export' ('*' _from_clause | namespace_export _from_clause
      | export_clause _from_clause | export_clause) _word_semicolon
  | 'export' 'type' export_clause _from_clause? _semicolon
  | 'export' 'import' import_alias
  | 'export' '=' expression _semicolon
  | 'export' 'as' 'namespace' identifier _semicolon
  | (decorator:decorator)* 'export' ('default' (declaration:declaration | value:expression _semicolon)
      | declaration:declaration) ;
export_specifier = (('type' | 'typeof') &_module_export_name !'as')? name:_module_export_name
  ('as' alias:_module_export_name)? ;

import_statement = 'import' !'(' !'.' (('type' | 'typeof') !'from' !',' !'=')?
  (import_clause _from_clause | import_require_clause | source:string) import_attribute?
  _word_semicolon ;
import_clause = namespace_import | named_imports
  | identifier (',' (namespace_import | named_imports))? ;
import_specifier = (('type' | 'typeof') &_module_export_name !'as')?
  (name:(_module_export_name | 'default' -> identifier) 'as' alias:identifier | name:identifier) ;
import_require_clause = identifier '=' 'require' '(' source:string ')' ;
import_alias = 'import' identifier '=' !('require' '(') (nested_identifier | identifier) _semicolon ;
nested_identifier = object:_inner_identifier '.' property:property_identifier ;
_inner_identifier ::= identifier | [1] _inner_part -> member_expression ;
_inner_part = object:$_ '.' property:property_identifier &'.' ;

variable_declarator = name:identifier '!' type:type_annotation
  | name:(identifier | _destructuring_pattern) (type:type_annotation)? _initializer? ;
catch_clause = 'catch' ('(' parameter:(identifier | _destructuring_pattern)
  (type:type_annotation)? ')')? body:statement_block ;
parenthesized_expression = '(' (sequence_expression | expression (type:type_annotation)?) ')' ;

function_signature = 'async'? 'function' name:identifier _call_signature
  (';' | %semicolon_signature) ;
class_declaration = (decorator:decorator)* 'class' name:(identifier -> type_identifier)
  (type_parameters:type_parameters)? class_heritage? body:class_body ;
abstract_class_declaration = (decorator:decorator)* 'abstract' 'class'
  name:(identifier -> type_identifier) (type_parameters:type_parameters)? class_heritage?
  body:class_body ;
class = (decorator:decorator)* 'class' (name:(!'implements' identifier -> type_identifier))?
  (type_parameters:type_parameters)? class_heritage? body:class_body ;
class_heritage = extends_clause implements_clause? | implements_clause ;
extends_clause = 'extends' _extends_item (',' _extends_item)* ;
_extends_item = value:expression@26 (type_arguments:type_arguments)? ;
implements_clause = 'implements' type (',' type)* ;

class_body = '\x7b' (_member_definition (';' | %semicolon_type)?
  | method_signature (',' | %semicolon_signature)
  | class_static_block
  | (abstract_method_signature | index_signature | method_signature | public_field_definition)
      (',' | _semicolon)
  | ';')* '\x7d' ;
_member_definition = (decorator:decorator)* method_definition ;
_rest_of_member = _property_name | '*' | '[' ;
accessibility_modifier = 'public' | 'private' | 'protected' ;
override_modifier = 'override' ;
_access = accessibility_modifier &_rest_of_member ;
_override = override_modifier &_rest_of_member ;
_static = 'static' &_rest_of_member ;
_readonly = 'readonly' &_rest_of_member ;
_abstract = 'abstract' &_rest_of_member ;
_async = 'async' &_rest_of_member ;
_accessor = ('get' | 'set' | '*') &_property_name ;
public_field_definition = (decorator:decorator)*
  ('declare' &_rest_of_member _access? | _access ('declare' &_rest_of_member)?)?
  (_abstract _readonly? | _readonly _abstract | 'accessor' &_rest_of_member
    | _static? _override? _readonly?)
  name:_property_name ("?" | '!')? (type:type_annotation)? _initializer? ;
method_definition = _access? _static? _override? _readonly? _async? _accessor?
  name:_property_name "?"? _call_signature body:statement_block ;
method_signature = _access? _static? _override? _readonly? _async? _accessor?
  name:_property_name "?"? _call_signature ;
abstract_method_signature = _access? 'abstract' &_rest_of_member _override? _accessor?
  name:_property_name "?"? _call_signature ;

module = 'module' _module ;
internal_module = 'namespace' _module ;
_module = %same_line name:(string | nested_identifier | identifier) (body:statement_block)? ;
ambient_declaration = 'declare' (declaration | 'global' statement_block
  | 'module' '.' property_identifier ':' type _semicolon) ;
interface_declaration = 'interface' name:(identifier -> type_identifier)
  (type_parameters:type_parameters)? extends_type_clause? body:(_object_type -> interface_body) ;
extends_type_clause = 'extends' type:_extends_type (',' type:_extends_type)* ;
_extends_type = generic_type | nested_type_identifier | identifier -> type_identifier ;
enum_declaration = 'const'? 'enum' name:identifier body:enum_body ;
enum_body = '\x7b' (_enum_item (',' _enum_item)* ','?)? '\x7d' ;
_enum_item = enum_assignment | name:_property_name ;
enum_assignment = name:_property_name _initializer ;
type_alias_declaration = 'type' %same_line name:(identifier -> type_identifier)
  (type_parameters:type_parameters)? '=' value:type _semicolon ;

decorator = '@' (_decorator_target | _decorator_parentheses -> parenthesized_expression) ;
_decorator_call = function:$_ (type_arguments:type_arguments)? arguments:arguments ;
_decorator_parentheses = '(' _decorator_target ')' ;

_formal_parameter = optional_parameter | required_parameter ;
required_parameter = _parameter_name (type:type_annotation)? _initializer? ;
optional_parameter = _parameter_name "?" (type:type_annotation)? _initializer? ;
_parameter_name = (decorator:decorator)* (accessibility_modifier &_parameter_start)?
  (override_modifier &_parameter_start)? ('readonly' &_parameter_start)? pattern:(this | pattern) ;
_parameter_start = identifier | '\x7b' | '[' ;
_call_signature = (type_parameters:type_parameters)? parameters:formal_parameters
  (return_type:(asserts_annotation | type_predicate_annotation | type_annotation))? ;
"#

def typescriptExpressions : String := r#"
class expression = as_expression satisfies_expression instantiation_expression internal_module
  primary_expression type_assertion jsx_element jsx_self_closing_element assignment_expression
  augmented_assignment_expression await_expression unary_expression binary_expression
  ternary_expression update_expression new_expression yield_expression ;
class primary_expression = subscript_expression member_expression parenthesized_expression
  undefined identifier this super number string template_string regex true false null object
  array function_expression arrow_function generator_function class meta_property
  call_expression non_null_expression ;
class pattern = member_expression subscript_expression undefined identifier object_pattern
  array_pattern rest_pattern non_null_expression ;
union _dialect_expression = jsx_element jsx_self_closing_element type_assertion ;
union _lhs_expression = member_expression subscript_expression undefined identifier object_pattern
  array_pattern parenthesized_expression non_null_expression ;

expression ::= arrow_function | _dialect_expression | _pattern_assignment -> assignment_expression
  | _word_expression | await_expression | yield_expression | new_expression
  | meta_property | import &'(' | _prefix_update -> update_expression | unary_expression
  | number | string | template_string | regex | array | object | parenthesized_expression
  | _private_test -> binary_expression | identifier
  | [30] non_null_expression
  | [30] member_expression
  | [30] _chain_call -> call_expression
  | [30] subscript_expression
  | [29] _template_call -> call_expression
  | [28: identifier undefined member_expression subscript_expression parenthesized_expression
      non_null_expression] assignment_expression
  | [28: identifier undefined member_expression subscript_expression parenthesized_expression
      non_null_expression] augmented_assignment_expression
  | [27] call_expression
  | [27] instantiation_expression
  | [26] update_expression
  | [24] _power -> binary_expression
  | [23] _times -> binary_expression
  | [22] _plus -> binary_expression
  | [21] _shift -> binary_expression
  | [20] _relation -> binary_expression
  | [19] _equality -> binary_expression
  | [18] _bit_and -> binary_expression
  | [17] _bit_xor -> binary_expression
  | [16] _bit_or -> binary_expression
  | [15] _and -> binary_expression
  | [14] _or -> binary_expression
  | [13] _default -> binary_expression
  | [13] as_expression
  | [13] satisfies_expression
  | [13] ternary_expression ;

call_expression = function:$expression (type_arguments:type_arguments)? arguments:arguments ;
_chain_call = function:$primary_expression '?.' (type_arguments:type_arguments)?
  arguments:arguments ;
new_expression = 'new' constructor:primary_expression (type_arguments:type_arguments &'(')?
  (arguments:arguments)? ;
non_null_expression = $expression %same_line '!' ;
as_expression = $expression %same_line 'as' ('const' | type) ;
satisfies_expression = $expression %same_line 'satisfies' type ;
instantiation_expression = $expression type_arguments:type_arguments !expression ;
"#

def typescriptTypes : String := r#"
class type = primary_type function_type readonly_type constructor_type infer_type
  member_expression call_expression ;
class primary_type = parenthesized_type predefined_type type_identifier nested_type_identifier
  generic_type object_type array_type tuple_type flow_maybe_type type_query index_type_query
  this_type existential_type literal_type lookup_type conditional_type template_literal_type
  intersection_type union_type ;

type ::= function_type | constructor_type | readonly_type | infer_type
  | _first_union -> union_type | _first_intersection -> intersection_type
  | index_type_query | type_query | predefined_type | literal_type | template_literal_type
  | _object_type -> object_type | tuple_type | this -> this_type | flow_maybe_type
  | existential_type | parenthesized_type | generic_type | nested_type_identifier | _import_type
  | identifier -> type_identifier
  | [9] array_type
  | [9] lookup_type
  | [7] intersection_type
  | [6] union_type
  | [5] conditional_type ;
primary_type = type@9 ;

type_annotation = ':' type ;
omitting_type_annotation = '-?:' type ;
adding_type_annotation = '+?:' type ;
opting_type_annotation = '?:' type ;
asserts = 'asserts' %same_line (type_predicate | identifier | this) ;
asserts_annotation = ':' asserts ;
type_predicate = name:(identifier | this) %same_line 'is' type:type ;
type_predicate_annotation = ':' type_predicate ;

function_type = (type_parameters:type_parameters)? parameters:formal_parameters '=>'
  return_type:(asserts | type_predicate | type) ;
constructor_type = 'abstract'? 'new' (type_parameters:type_parameters)?
  parameters:formal_parameters '=>' type:type ;
readonly_type = 'readonly' type ;
infer_type = 'infer' (identifier -> type_identifier) ('extends' type@6)? ;
_first_union = '|' type@7 ;
_first_intersection = '&' type@8 ;
union_type = $type '|' type@7 ;
intersection_type = $type '&' type@8 ;
conditional_type = left:$type 'extends' right:type@6 '?' consequence:type ':' alternative:type ;
array_type = $primary_type %same_line '[' ']' ;
lookup_type = $primary_type %same_line '[' type ']' ;
index_type_query = 'keyof' primary_type ;
flow_maybe_type = '?' primary_type ;
existential_type = '*' ;
parenthesized_type = '(' type ')' ;
predefined_type = 'any' | 'number' | 'boolean' | 'string' | 'symbol' | _unique_symbol -> 'unique symbol'
  | 'void' | 'unknown' | 'never' | 'object' ;
_unique_symbol = 'unique' 'symbol' ;
literal_type = _signed_number -> unary_expression | number | string | true | false | null
  | undefined ;
_signed_number = operator:('-' | '+') argument:number ;
template_literal_type = '`' (^_template_chars -> string_fragment | template_type
  | ^/\$/ -> string_fragment)* ^'`' ;
template_type = ^'$\x7b' (infer_type | primary_type) '\x7d' ;
generic_type = name:(nested_type_identifier | identifier -> type_identifier)
  type_arguments:type_arguments ;
nested_type_identifier = module:_type_module '.' name:(identifier -> type_identifier) ;
_type_module ::= identifier | [1] _outer_module_part -> member_expression
  | [1] _module_part -> nested_identifier ;
_outer_module_part = object:$_ '.' property:property_identifier &('.' identifier '.') ;
_module_part = object:$_ '.' property:property_identifier &'.' ;
_import_type ::= _import_call -> call_expression
  | [1] _import_member -> member_expression
  | [1: member_expression] _import_member_call -> call_expression ;
_import_call = function:import arguments:arguments ;
_import_member = object:$_ '.' property:(private_property_identifier | property_identifier) ;
_import_member_call = function:$_ arguments:arguments ;
type_query = 'typeof' _type_query_target ;
_type_query_target ::= import | identifier | this
  | [3] _query_member -> member_expression
  | [3] _query_subscript -> subscript_expression
  | [3] _query_call -> call_expression
  | [3] _query_instantiation -> instantiation_expression ;
_query_member = object:$_ ('.' | '?.') property:(private_property_identifier | property_identifier) ;
_query_subscript = object:$_ '?.'? '[' index:(predefined_type | string | number) ']' ;
_query_call = function:$_ arguments:arguments ;
_query_instantiation = function:$_ type_arguments:type_arguments ;
tuple_type = '[' (_tuple_item (',' _tuple_item)*)? ','? ']' ;
_tuple_item = _tuple_parameter -> required_parameter
  | _optional_tuple_parameter -> optional_parameter | rest_type | optional_type | type ;
_tuple_parameter = name:(identifier | rest_pattern) type:type_annotation ;
_optional_tuple_parameter = name:identifier "?" type:type_annotation ;
optional_type = type '?' ;
rest_type = '...' type ;

_object_type = ('\x7b' | '\x7b|') ((',' | ';')? _object_type_item
  ((',' | _semicolon) _object_type_item)*)? (',' | _semicolon)? ('\x7d' | '|\x7d') ;
_object_type_item = export_statement | construct_signature | call_signature | index_signature
  | method_signature | property_signature ;
property_signature = _access? _static? _override? _readonly? name:_property_name "?"?
  (type:type_annotation)? ;
call_signature = _call_signature ;
construct_signature = 'abstract'? 'new' (type_parameters:type_parameters)?
  parameters:formal_parameters (type:type_annotation)? ;
index_signature = ((sign:('-' | '+'))? 'readonly')? '['
  (mapped_type_clause | name:identifier ':' index_type:type) ']'
  type:(omitting_type_annotation | adding_type_annotation | opting_type_annotation
    | type_annotation) ;
mapped_type_clause = name:(identifier -> type_identifier) 'in' type:type ('as' alias:type)? ;
type_parameters = "<" type_parameter (',' type_parameter)* ','? ">" ;
type_parameter = 'const'? name:(identifier -> type_identifier) (constraint:constraint)?
  (value:default_type)? ;
constraint = ('extends' | ':') type ;
default_type = '=' type ;
type_arguments = "<" type (',' type)* ','? ">" ;
"#

/-- What the dialect without elements of documents adds. -/
def typescriptAssertions : String := r#"
_dialect_expression = type_assertion ;
type_assertion = type_arguments expression@25 ;
"#

/-- What the dialect with elements of documents adds. -/
def typescriptElements : String := r#"
_dialect_expression = _jsx_element ;
jsx_opening_element = "<" _element_head? ">" ;
jsx_self_closing_element = "<" _element_head '/>' ;
_element_head = name:_jsx_element_name (type_arguments:type_arguments)? (attribute:_jsx_attribute)* ;
"#

def typescriptText : String :=
  javascriptTokens ++ javascriptStatements ++ javascriptExpressions ++ typescriptStatements ++
    typescriptExpressions ++ typescriptTypes ++ typescriptAssertions

def tsxText : String :=
  javascriptTokens ++ javascriptStatements ++ javascriptExpressions ++ javascriptElements ++
    typescriptStatements ++ typescriptExpressions ++ typescriptTypes ++ typescriptElements

end RuleLint.Grammars
