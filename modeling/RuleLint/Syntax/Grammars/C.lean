import RuleLint.Syntax.Grammar.Reader

/-!
# The grammar of C

Names of types are not known when a text is read, so what could be a declaration or an expression is
decided by its form: `a * b;` declares `b`, and `f(x);` is a call. Directives take their line with its
end.
-/

namespace RuleLint.Grammars

def cTokens : String := r#"
root translation_unit ;
item _top_level_item ;
blank /\s/ ;
extra comment _joined_line ;
word identifier ;
reserved typedef extern __attribute__ __attribute __declspec __based __cdecl __clrcall __stdcall
  __fastcall __thiscall __vectorcall signed unsigned long short static auto register inline __inline
  __inline__ __forceinline thread_local __thread const constexpr volatile restrict __restrict__
  __extension__ _Atomic _Noreturn noreturn _Nonnull alignas _Alignas enum struct union if else switch
  case default while do for return break continue goto __try __except __finally __leave sizeof
  __alignof__ __alignof _alignof alignof _Alignof offsetof _Generic asm __asm__ __asm __volatile__
  TRUE true FALSE false NULL nullptr bool char int float double void size_t ssize_t ptrdiff_t intptr_t
  uintptr_t charptr_t nullptr_t max_align_t int8_t int16_t int32_t int64_t uint8_t uint16_t uint32_t
  uint64_t char8_t char16_t char32_t char64_t ;

comment = /\/\/(?:\\+(?:.|\r?\n)|[^\\\n])*|\/\*[^*]*\*+(?:[^\/*][^*]*\*+)*\// ;
_joined_line = /\\\r?\n/ ;
identifier = /(?:[\p{XID_Start}$_]|\\u[0-9A-Fa-f]{4}|\\U[0-9A-Fa-f]{8})(?:[\p{XID_Continue}$]|\\u[0-9A-Fa-f]{4}|\\U[0-9A-Fa-f]{8})*/ ;
number_literal = /[-+]?(?:(?:0[xX][0-9a-fA-F]+(?:'[0-9a-fA-F]+)*|0[bB][0-9]+(?:'[0-9]+)*|[0-9]+(?:'[0-9]+)*)(?:\.(?:[0-9a-fA-F]+(?:'[0-9a-fA-F]+)*)?)?|\.[0-9]+(?:'[0-9]+)*)(?:[eEpP](?:[-+]?[0-9a-fA-F]+(?:'[0-9a-fA-F]+)*)?)?[uUlLwWfFbBdD]*/ ;
char_literal = ('L\'' | 'u8\'' | 'u\'' | 'U\'' | '\'') (escape_sequence | ^/[^\n']/ -> character)+ ^'\'' ;
string_literal = ('L"' | 'u8"' | 'u"' | 'U"' | '"') (^/[^\\"\n]+/ -> string_content | escape_sequence)* ^'"' ;
escape_sequence = ^/\\(?:\d{2,3}|[^xuU]|x[0-9a-fA-F]{1,4}|u[0-9a-fA-F]{4}|U[0-9a-fA-F]{8})/ ;
concatenated_string = (!/(?:L|u8|u|U)"/ identifier string_literal | string_literal (string_literal | identifier))
  (string_literal | identifier)* ;
union _string = concatenated_string string_literal ;
_string = concatenated_string | string_literal ;
system_lib_string = /<(?:[^>\n]|\\>)*>/ ;
true = /(?:TRUE|true)\b/ ;
false = /(?:FALSE|false)\b/ ;
null = 'NULL' | 'nullptr' ;
primitive_type = /(?:bool|char|int|float|double|void|size_t|ssize_t|ptrdiff_t|intptr_t|uintptr_t|charptr_t|nullptr_t|max_align_t|u?int(?:8|16|32|64)_t|char(?:8|16|32|64)_t)\b/ ;
union _type_identifier = type_identifier ;
_type_identifier = identifier -> type_identifier ;
union _field_identifier = field_identifier ;
_field_identifier = identifier -> field_identifier ;
union _statement_identifier = statement_identifier ;
_statement_identifier = identifier -> statement_identifier ;
_any_word = /(?:[\p{XID_Start}$_]|\\u[0-9A-Fa-f]{4}|\\U[0-9A-Fa-f]{8})(?:[\p{XID_Continue}$]|\\u[0-9A-Fa-f]{4}|\\U[0-9A-Fa-f]{8})*/ ;
union _any_identifier = identifier ;
_any_identifier = _any_word -> identifier ;
"#

def cDirectives : String := r#"
preproc_include = (/#[ \t]*include\b/ -> '#include') path:(string_literal | system_lib_string
  | preproc_call_expression -> call_expression | identifier) _line_end ;
_line_end = %strict /\n/ | %text_end ;
preproc_def = (/#[ \t]*define\b/ -> '#define') name:_any_identifier !(^'(') %strict (value:preproc_arg)?
  _line_end ;
preproc_function_def = (/#[ \t]*define\b/ -> '#define') name:_any_identifier parameters:preproc_params
  %strict (value:preproc_arg)? _line_end ;
preproc_params = ^'(' %strict (((_any_identifier | '...') (',' (_any_identifier | '...'))*)? ')') ;
preproc_call = !_branch directive:preproc_directive %strict (argument:preproc_arg)? _line_end ;
_stray_directive = directive:preproc_directive %strict (argument:preproc_arg)? _line_end ;
_other_directive = !_choice directive:preproc_directive %strict (argument:preproc_arg)? _line_end ;
_choice = /#[ \t]*(?:if|ifdef|ifndef|elif|elifdef|elifndef|else|endif)\b/ ;
_branch = /#[ \t]*(?:if|ifdef|ifndef|elif|elifdef|elifndef|else|endif|define|include)\b/ ;
preproc_arg = /\S(?:\\\r?\n|\/[^*]|[^\/\n])*/ ;
preproc_directive = /#[ \t]*[a-zA-Z0-9]\w*/ ;
_preproc_expression ::= preproc_defined | _preproc_call -> call_expression
    | number_literal | char_literal | _any_identifier | preproc_parenthesized_expression
      -> parenthesized_expression
    | preproc_unary_expression -> unary_expression
  | [10] _preproc_times -> binary_expression
  | [9] _preproc_plus -> binary_expression
  | [8] _preproc_shift -> binary_expression
  | [7] _preproc_relation -> binary_expression
  | [6] _preproc_equality -> binary_expression
  | [5] _preproc_bit_and -> binary_expression
  | [4] _preproc_bit_xor -> binary_expression
  | [3] _preproc_bit_or -> binary_expression
  | [2] _preproc_and -> binary_expression
  | [1] _preproc_or -> binary_expression ;
_preproc_times = left:$_ operator:('*' | '/' | '%') right:_preproc_expression@11 ;
_preproc_plus = left:$_ operator:('+' | '-') right:_preproc_expression@10 ;
_preproc_shift = left:$_ operator:('<<' | '>>') right:_preproc_expression@9 ;
_preproc_relation = left:$_ operator:('>' | '>=' | '<=' | '<') right:_preproc_expression@8 ;
_preproc_equality = left:$_ operator:('==' | '!=') right:_preproc_expression@7 ;
_preproc_bit_and = left:$_ operator:'&' right:_preproc_expression@6 ;
_preproc_bit_xor = left:$_ operator:'^' right:_preproc_expression@5 ;
_preproc_bit_or = left:$_ operator:'|' right:_preproc_expression@4 ;
_preproc_and = left:$_ operator:'&&' right:_preproc_expression@3 ;
_preproc_or = left:$_ operator:'||' right:_preproc_expression@2 ;
preproc_parenthesized_expression = '(' _preproc_expression ')' ;
preproc_defined = 'defined' '(' _any_identifier ')' | 'defined' _any_identifier ;
preproc_unary_expression = operator:('!' | '~' | '-' | '+') argument:_preproc_expression@11 ;
_preproc_call = function:_any_identifier arguments:(preproc_argument_list -> argument_list) ;
preproc_call_expression = function:identifier arguments:(preproc_argument_list -> argument_list) ;
preproc_argument_list = '(' (_preproc_expression (',' _preproc_expression)*)? ')' ;
_if = /#[ \t]*if\b/ -> '#if' ;
_ifdef = /#[ \t]*ifdef\b/ -> '#ifdef' | /#[ \t]*ifndef\b/ -> '#ifndef' ;
_elif = /#[ \t]*elif\b/ -> '#elif' ;
_elifdef = /#[ \t]*elifdef\b/ -> '#elifdef' | /#[ \t]*elifndef\b/ -> '#elifndef' ;
_else = /#[ \t]*else\b/ -> '#else' ;
_endif = /#[ \t]*endif\b/ -> '#endif' ;
"#

/-- The directives that choose between parts, in a place where `item` stands. -/
def cBranches (suffix item : String) : String := r#"
preproc_ifSUFFIX = _if %strict (condition:_preproc_expression "\n") ITEM*
  (alternative:_alternativeSUFFIX)? _endif ;
preproc_ifdefSUFFIX = _ifdef name:_any_identifier ITEM* (alternative:_alternativeSUFFIX)? _endif ;
preproc_elseSUFFIX = _else ITEM* ;
preproc_elifSUFFIX = _elif %strict (condition:_preproc_expression "\n") ITEM*
  (alternative:_alternativeSUFFIX)? ;
preproc_elifdefSUFFIX = _elifdef name:_any_identifier ITEM* (alternative:_alternativeSUFFIX)? ;
union _alternativeSUFFIX = preproc_else preproc_elif preproc_elifdef ;
_alternativeSUFFIX = preproc_elseSUFFIX -> preproc_else | preproc_elifSUFFIX -> preproc_elif
  | preproc_elifdefSUFFIX -> preproc_elifdef ;
"#.replace "SUFFIX" suffix |>.replace "ITEM" item

def cDeclarations : String := r#"
translation_unit = _top_level_item* ;
_directive = preproc_if | preproc_ifdef | preproc_include | preproc_function_def | preproc_def
  | preproc_call ;
_top_level_item = _directive | _stray_directive -> preproc_call | type_definition
  | linkage_specification | function_definition | _old_style_function_definition -> function_definition
  | _plain_declaration -> declaration | _top_level_statement | declaration | _empty_declaration ;
_block_item = _directive | type_definition | linkage_specification | function_definition
  | _old_style_function_definition -> function_definition | _plain_declaration -> declaration
  | statement | declaration | _empty_declaration ;
_plain_declaration = !(identifier '*'* '(') _declaration_parts ;
_declaration_parts = _declaration_specifiers _declared (',' _declared)* ';' ;
_declared = declarator:(init_declarator | _declaration_declarator !'=') gnu_asm_expression? ;
_empty_declaration = type_specifier ';' | _lone_macro_type -> macro_type_specifier ';' ;

function_definition = ms_call_modifier? _declaration_specifiers ms_call_modifier?
  declarator:_declarator body:compound_statement ;
_old_style_function_definition = _declaration_specifiers
  declarator:(_old_style_function_declarator -> function_declarator) declaration* body:compound_statement ;
_old_style_function_declarator = declarator:identifier
  parameters:(_old_style_parameter_list -> parameter_list) ;
_old_style_parameter_list = '(' ((identifier | variadic_parameter)
  (',' (identifier | variadic_parameter))*)? ')' ;
declaration = _declaration_parts ;
type_definition = '__extension__'? 'typedef' _type_definition_type declarator:_type_declarator
  (',' declarator:_type_declarator)* attribute_specifier* ';' ;
_type_definition_type = type_qualifier* type:type_specifier type_qualifier* ;
_declaration_modifiers = storage_class_specifier | type_qualifier | attribute_specifier
  | attribute_declaration | ms_declspec_modifier ;
_declaration_specifiers = _declaration_modifiers* type:type_specifier _declaration_modifiers* ;
linkage_specification = 'extern' value:string_literal
  body:(function_definition | declaration | declaration_list) ;
attribute_specifier = ('__attribute__' | '__attribute') '(' argument_list ')' ;
attribute = (prefix:identifier '::')? name:identifier argument_list? ;
attribute_declaration = '[[' attribute (',' attribute)* ']]' ;
ms_declspec_modifier = '__declspec' '(' identifier ')' ;
ms_based_modifier = '__based' argument_list ;
ms_call_modifier = '__cdecl' | '__clrcall' | '__stdcall' | '__fastcall' | '__thiscall' | '__vectorcall' ;
ms_restrict_modifier = '__restrict' ;
ms_unsigned_ptr_modifier = '__uptr' ;
ms_signed_ptr_modifier = '__sptr' ;
ms_unaligned_ptr_modifier = '_unaligned' | '__unaligned' ;
ms_pointer_modifier = ms_unaligned_ptr_modifier | ms_restrict_modifier | ms_unsigned_ptr_modifier
  | ms_signed_ptr_modifier ;
declaration_list = '\x7b' _block_item* '\x7d' ;
init_declarator = declarator:_declarator '=' value:(initializer_list | expression) ;
compound_statement = '\x7b' _block_item* '\x7d' ;
storage_class_specifier = 'extern' | 'static' | 'auto' | 'register' | 'inline' | '__inline' | '__inline__'
  | '__forceinline' | 'thread_local' | '__thread' ;
type_qualifier = 'const' | 'constexpr' | 'volatile' | 'restrict' | '__restrict__' | '__extension__'
  | '_Atomic' | '_Noreturn' | 'noreturn' | '_Nonnull' | alignas_qualifier ;
alignas_qualifier = ('alignas' | '_Alignas') '(' (expression | type_descriptor) ')' ;

class type_specifier = struct_specifier union_specifier enum_specifier macro_type_specifier
  sized_type_specifier primitive_type type_identifier ;
type_specifier = struct_specifier | union_specifier | enum_specifier | sized_type_specifier
  | primitive_type | macro_type_specifier | _type_identifier ;
macro_type_specifier = name:identifier '(' type:type_descriptor ')' &(identifier | '*') ;
_lone_macro_type = name:identifier '(' type:type_descriptor ')' ;
sized_type_specifier = type:primitive_type _size+
  | _size+ type_qualifier* (type:primitive_type)? _size* ;
_size = 'signed' | 'unsigned' | 'long' | 'short' ;
enum_specifier = 'enum' (name:_type_identifier (':' underlying_type:primitive_type)?
  (body:enumerator_list)? | body:enumerator_list) attribute_specifier? ;
enumerator_list = '\x7b' _enumerator_item* '\x7d' ;
_enumerator_item = enumerator ','? | _other_directive -> preproc_call | preproc_if_in_enumerator_list -> preproc_if
  | preproc_ifdef_in_enumerator_list -> preproc_ifdef ;
struct_specifier = 'struct' attribute_specifier? ms_declspec_modifier? (name:_type_identifier
  (body:field_declaration_list)? | body:field_declaration_list) attribute_specifier? ;
union_specifier = 'union' attribute_specifier? ms_declspec_modifier? (name:_type_identifier
  (body:field_declaration_list)? | body:field_declaration_list) attribute_specifier? ;
field_declaration_list = '\x7b' _field_declaration_list_item* '\x7d' ;
_field_declaration_list_item = preproc_function_def | preproc_def | _other_directive -> preproc_call
  | preproc_if_in_field_declaration_list -> preproc_if
  | preproc_ifdef_in_field_declaration_list -> preproc_ifdef | field_declaration ;
field_declaration = _declaration_specifiers (_field (',' _field)*)? attribute_specifier* ';' ;
_field = declarator:_field_declarator bitfield_clause? | bitfield_clause ;
bitfield_clause = ':' expression ;
enumerator = name:_any_identifier ('=' value:expression)? ;
variadic_parameter = '...' ;
parameter_list = '(' (_parameter (',' _parameter)*)? ')' | '(' compound_statement ')' ;
_parameter = variadic_parameter | parameter_declaration ;
parameter_declaration = _declaration_specifiers
  (declarator:(_declarator &_parameter_end | _abstract_declarator))? attribute_specifier* ;
_parameter_end = ',' | ')' | '__attribute__' | '__attribute' ;

class _abstract_declarator = abstract_pointer_declarator abstract_function_declarator
  abstract_array_declarator abstract_parenthesized_declarator ;
_abstract_declarator ::= abstract_pointer_declarator | abstract_parenthesized_declarator
    | _bare_function -> abstract_function_declarator | _bare_array -> abstract_array_declarator
  | [1] abstract_function_declarator
  | [1] abstract_array_declarator ;
abstract_parenthesized_declarator = '(' ms_call_modifier? _abstract_declarator ')' ;
abstract_pointer_declarator = '*' ms_pointer_modifier* type_qualifier*
  (declarator:_abstract_declarator)? ;
abstract_function_declarator = declarator:$_abstract_declarator parameters:parameter_list ;
_bare_function = parameters:parameter_list ;
abstract_array_declarator = declarator:$_abstract_declarator _array_size ;
_bare_array = _array_size ;
_array_size = '[' (type_qualifier | 'static')* (size:(expression | '*'))? ']' ;
"#

/-- Declarators that declare `leaf` and are read by the rule `name`; parts are of the class `cls`. -/
def cDeclarators (name cls leaf : String) : String := (r#"
NAME ::= NAME_pointer -> pointer_declarator | NAME_group -> parenthesized_declarator | LEAF
  | [2] NAME_function -> function_declarator
  | [2] NAME_array -> array_declarator
  | [1] NAME_attributed -> attributed_declarator ;
NAME_pointer = ms_based_modifier? '*' ms_pointer_modifier* type_qualifier* declarator:CLASS ;
NAME_group = '(' ms_call_modifier? CLASS ')' ;
NAME_function = declarator:$CLASS parameters:parameter_list gnu_asm_expression?
  (attribute_specifier | preproc_call_expression -> call_expression | identifier)* ;
NAME_array = declarator:$CLASS _array_size ;
NAME_attributed = $CLASS attribute_declaration+ ;
"#.replace "NAME" name |>.replace "CLASS" cls).replace "LEAF" leaf

def cDeclaratorClasses : String := r#"
class _declarator = attributed_declarator pointer_declarator function_declarator array_declarator
  parenthesized_declarator identifier ;
class _field_declarator = attributed_declarator pointer_declarator function_declarator
  array_declarator parenthesized_declarator field_identifier ;
class _type_declarator = attributed_declarator pointer_declarator function_declarator
  array_declarator parenthesized_declarator type_identifier primitive_type ;
union _declaration_declarator = attributed_declarator pointer_declarator function_declarator
  array_declarator parenthesized_declarator identifier ;
"#

def cStatements : String := r#"
class statement = case_statement attributed_statement labeled_statement compound_statement
  expression_statement if_statement switch_statement do_statement while_statement for_statement
  return_statement break_statement continue_statement goto_statement seh_try_statement
  seh_leave_statement ;

statement = case_statement | attributed_statement | labeled_statement | compound_statement
  | if_statement | switch_statement | do_statement | while_statement | for_statement
  | return_statement | break_statement | continue_statement | goto_statement | seh_try_statement
  | seh_leave_statement | expression_statement ;
_top_level_statement = case_statement | attributed_statement | labeled_statement | compound_statement
  | if_statement | switch_statement | do_statement | while_statement | for_statement
  | return_statement | break_statement | continue_statement | goto_statement
  | _top_level_expression_statement -> expression_statement ;
_top_level_expression_statement = !_type_call expression@14? ';' ;
attributed_statement = attribute_declaration+ statement ;
labeled_statement = label:_statement_identifier ':' !':' (_plain_declaration -> declaration | statement
  | declaration) ;
expression_statement = !_type_call (comma_expression | expression)? ';' ;
_type_call = identifier '(' primitive_type ;
if_statement = 'if' condition:parenthesized_expression consequence:statement
  (alternative:else_clause)? ;
else_clause = 'else' statement ;
switch_statement = 'switch' condition:parenthesized_expression body:compound_statement ;
case_statement = ('case' value:expression | 'default') ':' _case_item* ;
_case_item = !('case' | 'default') (type_definition | _plain_declaration -> declaration | statement
  | declaration) ;
while_statement = 'while' condition:parenthesized_expression body:statement ;
do_statement = 'do' body:statement 'while' condition:parenthesized_expression ';' ;
for_statement = 'for' '(' (initializer:(_plain_declaration -> declaration)
    | (initializer:(comma_expression | expression))? ';' | initializer:declaration)
  (condition:(comma_expression | expression))? ';' (update:(comma_expression | expression))? ')'
  body:statement ;
return_statement = 'return' (comma_expression | expression)? ';' ;
break_statement = 'break' ';' ;
continue_statement = 'continue' ';' ;
goto_statement = 'goto' label:_statement_identifier ';' ;
seh_try_statement = '__try' body:compound_statement (seh_except_clause | seh_finally_clause) ;
seh_except_clause = '__except' filter:parenthesized_expression body:compound_statement ;
seh_finally_clause = '__finally' body:compound_statement ;
seh_leave_statement = '__leave' ';' ;
"#

def cExpressions : String := r#"
class expression = conditional_expression assignment_expression binary_expression unary_expression
  update_expression cast_expression pointer_expression sizeof_expression alignof_expression
  offsetof_expression generic_expression subscript_expression call_expression field_expression
  compound_literal_expression identifier number_literal string_literal concatenated_string true false
  null char_literal parenthesized_expression gnu_asm_expression extension_expression ;

expression ::= number_literal | char_literal | _string | true | false | null | sizeof_expression
    | alignof_expression | offsetof_expression | generic_expression | gnu_asm_expression
    | extension_expression | compound_literal_expression | cast_expression | parenthesized_expression
    | _step_before -> update_expression | pointer_expression | unary_expression | identifier
  | [19] subscript_expression
  | [18] field_expression
  | [17] call_expression
  | [16] update_expression
  | [13] _times -> binary_expression
  | [12] _plus -> binary_expression
  | [11] _shift -> binary_expression
  | [9] _relation -> binary_expression
  | [8] _equality -> binary_expression
  | [7] _bit_and -> binary_expression
  | [6] _bit_xor -> binary_expression
  | [5] _bit_or -> binary_expression
  | [4] _and -> binary_expression
  | [3] _or -> binary_expression
  | [2] conditional_expression
  | [1: identifier call_expression field_expression pointer_expression subscript_expression
      parenthesized_expression] assignment_expression ;
comma_expression = left:expression ',' right:(comma_expression | expression) ;
conditional_expression = condition:$expression '?' (consequence:(comma_expression | expression))? ':'
  alternative:expression ;
assignment_expression = left:$_ operator:('=' | '*=' | '/=' | '%=' | '+=' | '-=' | '<<=' | '>>=' | '&='
  | '^=' | '|=') right:expression ;
pointer_expression = operator:('*' | '&') argument:expression@14 ;
unary_expression = operator:('!' | '~' | '-' | '+') argument:expression@16 ;
_times = left:$expression operator:('*' | '/' | '%') right:expression@14 ;
_plus = left:$expression operator:('+' | '-') right:expression@13 ;
_shift = left:$expression operator:('<<' | '>>') right:expression@12 ;
_relation = left:$expression operator:('>=' | '<=' | '>' | '<') right:expression@10 ;
_equality = left:$expression operator:('==' | '!=') right:expression@9 ;
_bit_and = left:$expression operator:'&' right:expression@8 ;
_bit_xor = left:$expression operator:'^' right:expression@7 ;
_bit_or = left:$expression operator:'|' right:expression@6 ;
_and = left:$expression operator:'&&' right:expression@5 ;
_or = left:$expression operator:'||' right:expression@4 ;
update_expression = argument:$expression operator:('--' | '++') ;
_step_before = operator:('--' | '++') argument:expression@16 ;
cast_expression = '(' type:type_descriptor ')' !_operator value:expression@14
  | '(' !(expression ')') type:type_descriptor ')' value:expression@14 ;
_operator = '*' | '&' | '-' | '+' | '--' | '++' ;
type_descriptor = type_qualifier* type:type_specifier type_qualifier*
  (declarator:_abstract_declarator)? ;
sizeof_expression = 'sizeof' '(' !(!_type_call expression ')') type:type_descriptor ')' !'\x7b'
  | 'sizeof' value:expression@15 ;
alignof_expression = ('__alignof__' | '__alignof' | '_alignof' | 'alignof' | '_Alignof') '('
  type:type_descriptor ')' ;
offsetof_expression = 'offsetof' '(' type:type_descriptor ',' member:_field_identifier ')' ;
generic_expression = '_Generic' '(' expression ',' type_descriptor ':' expression
  (',' type_descriptor ':' expression)* ')' ;
subscript_expression = argument:$expression '[' index:expression ']' ;
call_expression = function:$expression arguments:argument_list ;
gnu_asm_expression = ('asm' | '__asm__' | '__asm') gnu_asm_qualifier* '(' assembly_code:_string
  (output_operands:gnu_asm_output_operand_list (input_operands:gnu_asm_input_operand_list
  (clobbers:gnu_asm_clobber_list (goto_labels:gnu_asm_goto_list)?)?)?)? ')' ;
gnu_asm_qualifier = 'volatile' | '__volatile__' | 'inline' | 'goto' ;
gnu_asm_output_operand_list = ":" (operand:gnu_asm_output_operand
  (',' operand:gnu_asm_output_operand)*)? ;
gnu_asm_output_operand = ('[' symbol:identifier ']')? constraint:string_literal '(' value:expression ')' ;
gnu_asm_input_operand_list = ":" (operand:gnu_asm_input_operand
  (',' operand:gnu_asm_input_operand)*)? ;
gnu_asm_input_operand = ('[' symbol:identifier ']')? constraint:string_literal '(' value:expression ')' ;
gnu_asm_clobber_list = ":" (register:_string (',' register:_string)*)? ;
gnu_asm_goto_list = ":" (label:identifier (',' label:identifier)*)? ;
extension_expression = '__extension__' expression ;
argument_list = '(' (_argument (',' _argument)*)? ')' ;
_argument = expression | compound_statement | primitive_type -> identifier ;
field_expression = argument:$expression operator:('.' | '->') field:_field_identifier ;
compound_literal_expression = '(' type:type_descriptor ')' value:initializer_list ;
parenthesized_expression = '(' (comma_expression | expression | compound_statement) ')' ;
initializer_list = '\x7b' (_initializer (',' _initializer)*)? ','? '\x7d' ;
_initializer = initializer_pair | initializer_list | expression ;
initializer_pair = (designator:_designator)+ '=' value:(initializer_list | expression)
  | designator:_field_identifier ':' value:(initializer_list | expression) ;
union _designator = subscript_designator subscript_range_designator field_designator ;
_designator = subscript_range_designator | subscript_designator | field_designator ;
subscript_designator = '[' expression ']' ;
subscript_range_designator = '[' start:expression '...' end:expression ']' ;
field_designator = '.' _field_identifier ;
"#

def cText : String :=
  cTokens ++ cDirectives ++ cBranches "" "_block_item" ++
    cBranches "_in_field_declaration_list" "_field_declaration_list_item" ++
    cBranches "_in_enumerator_list" "_enumerator_item" ++ cDeclarations ++ cDeclaratorClasses ++
    cDeclarators "_declarator" "_declarator" "identifier" ++
    cDeclarators "_declaration_declarator" "_declarator" "identifier" ++
    cDeclarators "_field_declarator" "_field_declarator" "_field_identifier" ++
    cDeclarators "_type_declarator" "_type_declarator" "_type_identifier | primitive_type" ++
    cStatements ++ cExpressions

end RuleLint.Grammars
