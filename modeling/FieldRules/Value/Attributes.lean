import FieldRules.Value.Basic

/-! # Attributes that are not data

Besides the data that a value carries (the fields of a record, the parts of a number or a
date), a value of each kind has attributes that are methods, types or other objects: `upper` of
a text, `append` of a list, `__class__` of anything. A rule that reads such an attribute gets an
opaque object, which is not null and not empty. The tables list these attributes for each kind
of value, grouped by the kind of object each one is; an attribute whose object is `None` reads
as null. -/

namespace FieldRules

/-- The attributes that values of each kind have besides their data, grouped by the kind of
  object each attribute is, as blank-separated names. -/
def attributeGroups : List (String × List (String × String)) := [
  ("str", [
    ("method-wrapper",
      "__add__ __contains__ __delattr__ __eq__ __ge__ __getattribute__ __getitem__ __gt__ " ++
      "__hash__ __init__ __iter__ __le__ __len__ __lt__ __mod__ __mul__ __ne__ __repr__ " ++
      "__rmod__ __rmul__ __setattr__ __str__"),
    ("type", "__class__"),
    ("builtin_function_or_method",
      "__dir__ __format__ __getnewargs__ __getstate__ __init_subclass__ __new__ __reduce__ " ++
      "__reduce_ex__ __sizeof__ __subclasshook__ capitalize casefold center count encode " ++
      "endswith expandtabs find format format_map index isalnum isalpha isascii isdecimal " ++
      "isdigit isidentifier islower isnumeric isprintable isspace istitle isupper join ljust " ++
      "lower lstrip maketrans partition removeprefix removesuffix replace rfind rindex rjust " ++
      "rpartition rsplit rstrip split splitlines startswith strip swapcase title translate " ++
      "upper zfill"),
    ("str", "__doc__")]),
  ("int", [
    ("method-wrapper",
      "__abs__ __add__ __and__ __bool__ __delattr__ __divmod__ __eq__ __float__ __floordiv__ " ++
      "__ge__ __getattribute__ __gt__ __hash__ __index__ __init__ __int__ __invert__ __le__ " ++
      "__lshift__ __lt__ __mod__ __mul__ __ne__ __neg__ __or__ __pos__ __pow__ __radd__ " ++
      "__rand__ __rdivmod__ __repr__ __rfloordiv__ __rlshift__ __rmod__ __rmul__ __ror__ " ++
      "__rpow__ __rrshift__ __rshift__ __rsub__ __rtruediv__ __rxor__ __setattr__ __str__ " ++
      "__sub__ __truediv__ __xor__"),
    ("builtin_function_or_method",
      "__ceil__ __dir__ __floor__ __format__ __getnewargs__ __getstate__ __init_subclass__ " ++
      "__new__ __reduce__ __reduce_ex__ __round__ __sizeof__ __subclasshook__ __trunc__ " ++
      "as_integer_ratio bit_count bit_length conjugate from_bytes to_bytes"),
    ("type", "__class__"),
    ("str", "__doc__")]),
  ("bool", [
    ("method-wrapper",
      "__abs__ __add__ __and__ __bool__ __delattr__ __divmod__ __eq__ __float__ __floordiv__ " ++
      "__ge__ __getattribute__ __gt__ __hash__ __index__ __init__ __int__ __invert__ __le__ " ++
      "__lshift__ __lt__ __mod__ __mul__ __ne__ __neg__ __or__ __pos__ __pow__ __radd__ " ++
      "__rand__ __rdivmod__ __repr__ __rfloordiv__ __rlshift__ __rmod__ __rmul__ __ror__ " ++
      "__rpow__ __rrshift__ __rshift__ __rsub__ __rtruediv__ __rxor__ __setattr__ __str__ " ++
      "__sub__ __truediv__ __xor__"),
    ("builtin_function_or_method",
      "__ceil__ __dir__ __floor__ __format__ __getnewargs__ __getstate__ __init_subclass__ " ++
      "__new__ __reduce__ __reduce_ex__ __round__ __sizeof__ __subclasshook__ __trunc__ " ++
      "as_integer_ratio bit_count bit_length conjugate from_bytes to_bytes"),
    ("type", "__class__"),
    ("str", "__doc__")]),
  ("float", [
    ("method-wrapper",
      "__abs__ __add__ __bool__ __delattr__ __divmod__ __eq__ __float__ __floordiv__ __ge__ " ++
      "__getattribute__ __gt__ __hash__ __init__ __int__ __le__ __lt__ __mod__ __mul__ __ne__ " ++
      "__neg__ __pos__ __pow__ __radd__ __rdivmod__ __repr__ __rfloordiv__ __rmod__ __rmul__ " ++
      "__rpow__ __rsub__ __rtruediv__ __setattr__ __str__ __sub__ __truediv__"),
    ("builtin_function_or_method",
      "__ceil__ __dir__ __floor__ __format__ __getformat__ __getnewargs__ __getstate__ " ++
      "__init_subclass__ __new__ __reduce__ __reduce_ex__ __round__ __sizeof__ __subclasshook__ " ++
      "__trunc__ as_integer_ratio conjugate fromhex hex is_integer"),
    ("type", "__class__"),
    ("str", "__doc__")]),
  ("complex", [
    ("method-wrapper",
      "__abs__ __add__ __bool__ __delattr__ __eq__ __ge__ __getattribute__ __gt__ __hash__ " ++
      "__init__ __le__ __lt__ __mul__ __ne__ __neg__ __pos__ __pow__ __radd__ __repr__ __rmul__ " ++
      "__rpow__ __rsub__ __rtruediv__ __setattr__ __str__ __sub__ __truediv__"),
    ("type", "__class__"),
    ("builtin_function_or_method",
      "__complex__ __dir__ __format__ __getnewargs__ __getstate__ __init_subclass__ __new__ " ++
      "__reduce__ __reduce_ex__ __sizeof__ __subclasshook__ conjugate"),
    ("str", "__doc__")]),
  ("Decimal", [
    ("method-wrapper",
      "__abs__ __add__ __bool__ __delattr__ __divmod__ __eq__ __float__ __floordiv__ __ge__ " ++
      "__getattribute__ __gt__ __hash__ __init__ __int__ __le__ __lt__ __mod__ __mul__ __ne__ " ++
      "__neg__ __pos__ __pow__ __radd__ __rdivmod__ __repr__ __rfloordiv__ __rmod__ __rmul__ " ++
      "__rpow__ __rsub__ __rtruediv__ __setattr__ __str__ __sub__ __truediv__"),
    ("builtin_function_or_method",
      "__ceil__ __complex__ __copy__ __deepcopy__ __dir__ __floor__ __format__ __getstate__ " ++
      "__init_subclass__ __new__ __reduce__ __reduce_ex__ __round__ __sizeof__ __subclasshook__ " ++
      "__trunc__ adjusted as_integer_ratio as_tuple canonical compare compare_signal " ++
      "compare_total compare_total_mag conjugate copy_abs copy_negate copy_sign exp fma " ++
      "from_float is_canonical is_finite is_infinite is_nan is_normal is_qnan is_signed is_snan " ++
      "is_subnormal is_zero ln log10 logb logical_and logical_invert logical_or logical_xor max " ++
      "max_mag min min_mag next_minus next_plus next_toward normalize number_class quantize " ++
      "radix remainder_near rotate same_quantum scaleb shift sqrt to_eng_string to_integral " ++
      "to_integral_exact to_integral_value"),
    ("type", "__class__"),
    ("str", "__doc__ __module__")]),
  ("Fraction", [
    ("method",
      "__abs__ __add__ __bool__ __ceil__ __complex__ __copy__ __deepcopy__ __divmod__ __eq__ " ++
      "__float__ __floor__ __floordiv__ __ge__ __gt__ __hash__ __int__ __le__ __lt__ __mod__ " ++
      "__mul__ __neg__ __pos__ __pow__ __radd__ __rdivmod__ __reduce__ __repr__ __rfloordiv__ " ++
      "__rmod__ __rmul__ __round__ __rpow__ __rsub__ __rtruediv__ __str__ __sub__ __truediv__ " ++
      "__trunc__ _add _div _divmod _floordiv _mod _mul _operator_fallbacks _richcmp _sub " ++
      "as_integer_ratio conjugate from_decimal from_float limit_denominator"),
    ("frozenset", "__abstractmethods__"),
    ("ABCMeta", "__class__"),
    ("method-wrapper", "__delattr__ __getattribute__ __init__ __ne__ __setattr__"),
    ("builtin_function_or_method",
      "__dir__ __format__ __getstate__ __init_subclass__ __reduce_ex__ __sizeof__ " ++
      "__subclasshook__"),
    ("str", "__doc__ __module__"),
    ("function", "__new__"),
    ("tuple", "__slots__"),
    ("_abc_data", "_abc_impl")]),
  ("bytes", [
    ("method-wrapper",
      "__add__ __contains__ __delattr__ __eq__ __ge__ __getattribute__ __getitem__ __gt__ " ++
      "__hash__ __init__ __iter__ __le__ __len__ __lt__ __mod__ __mul__ __ne__ __repr__ " ++
      "__rmod__ __rmul__ __setattr__ __str__"),
    ("builtin_function_or_method",
      "__bytes__ __dir__ __format__ __getnewargs__ __getstate__ __init_subclass__ __new__ " ++
      "__reduce__ __reduce_ex__ __sizeof__ __subclasshook__ capitalize center count decode " ++
      "endswith expandtabs find fromhex hex index isalnum isalpha isascii isdigit islower " ++
      "isspace istitle isupper join ljust lower lstrip maketrans partition removeprefix " ++
      "removesuffix replace rfind rindex rjust rpartition rsplit rstrip split splitlines " ++
      "startswith strip swapcase title translate upper zfill"),
    ("type", "__class__"),
    ("str", "__doc__")]),
  ("bytearray", [
    ("method-wrapper",
      "__add__ __contains__ __delattr__ __delitem__ __eq__ __ge__ __getattribute__ __getitem__ " ++
      "__gt__ __iadd__ __imul__ __init__ __iter__ __le__ __len__ __lt__ __mod__ __mul__ __ne__ " ++
      "__repr__ __rmod__ __rmul__ __setattr__ __setitem__ __str__"),
    ("builtin_function_or_method",
      "__alloc__ __dir__ __format__ __getstate__ __init_subclass__ __new__ __reduce__ " ++
      "__reduce_ex__ __sizeof__ __subclasshook__ append capitalize center clear copy count " ++
      "decode endswith expandtabs extend find fromhex hex index insert isalnum isalpha isascii " ++
      "isdigit islower isspace istitle isupper join ljust lower lstrip maketrans partition pop " ++
      "remove removeprefix removesuffix replace reverse rfind rindex rjust rpartition rsplit " ++
      "rstrip split splitlines startswith strip swapcase title translate upper zfill"),
    ("type", "__class__"),
    ("str", "__doc__"),
    ("NoneType", "__hash__")]),
  ("list", [
    ("method-wrapper",
      "__add__ __contains__ __delattr__ __delitem__ __eq__ __ge__ __getattribute__ __gt__ " ++
      "__iadd__ __imul__ __init__ __iter__ __le__ __len__ __lt__ __mul__ __ne__ __repr__ " ++
      "__rmul__ __setattr__ __setitem__ __str__"),
    ("type", "__class__"),
    ("builtin_function_or_method",
      "__class_getitem__ __dir__ __format__ __getitem__ __getstate__ __init_subclass__ __new__ " ++
      "__reduce__ __reduce_ex__ __reversed__ __sizeof__ __subclasshook__ append clear copy " ++
      "count extend index insert pop remove reverse sort"),
    ("str", "__doc__"),
    ("NoneType", "__hash__")]),
  ("tuple", [
    ("method-wrapper",
      "__add__ __contains__ __delattr__ __eq__ __ge__ __getattribute__ __getitem__ __gt__ " ++
      "__hash__ __init__ __iter__ __le__ __len__ __lt__ __mul__ __ne__ __repr__ __rmul__ " ++
      "__setattr__ __str__"),
    ("type", "__class__"),
    ("builtin_function_or_method",
      "__class_getitem__ __dir__ __format__ __getnewargs__ __getstate__ __init_subclass__ " ++
      "__new__ __reduce__ __reduce_ex__ __sizeof__ __subclasshook__ count index"),
    ("str", "__doc__")]),
  ("set", [
    ("method-wrapper",
      "__and__ __delattr__ __eq__ __ge__ __getattribute__ __gt__ __iand__ __init__ __ior__ " ++
      "__isub__ __iter__ __ixor__ __le__ __len__ __lt__ __ne__ __or__ __rand__ __repr__ __ror__ " ++
      "__rsub__ __rxor__ __setattr__ __str__ __sub__ __xor__"),
    ("type", "__class__"),
    ("builtin_function_or_method",
      "__class_getitem__ __contains__ __dir__ __format__ __getstate__ __init_subclass__ __new__ " ++
      "__reduce__ __reduce_ex__ __sizeof__ __subclasshook__ add clear copy difference " ++
      "difference_update discard intersection intersection_update isdisjoint issubset " ++
      "issuperset pop remove symmetric_difference symmetric_difference_update union update"),
    ("str", "__doc__"),
    ("NoneType", "__hash__")]),
  ("frozenset", [
    ("method-wrapper",
      "__and__ __delattr__ __eq__ __ge__ __getattribute__ __gt__ __hash__ __init__ __iter__ " ++
      "__le__ __len__ __lt__ __ne__ __or__ __rand__ __repr__ __ror__ __rsub__ __rxor__ " ++
      "__setattr__ __str__ __sub__ __xor__"),
    ("type", "__class__"),
    ("builtin_function_or_method",
      "__class_getitem__ __contains__ __dir__ __format__ __getstate__ __init_subclass__ __new__ " ++
      "__reduce__ __reduce_ex__ __sizeof__ __subclasshook__ copy difference intersection " ++
      "isdisjoint issubset issuperset symmetric_difference union"),
    ("str", "__doc__")]),
  ("deque", [
    ("method-wrapper",
      "__add__ __contains__ __delattr__ __delitem__ __eq__ __ge__ __getattribute__ __getitem__ " ++
      "__gt__ __iadd__ __imul__ __init__ __iter__ __le__ __len__ __lt__ __mul__ __ne__ __repr__ " ++
      "__rmul__ __setattr__ __setitem__ __str__"),
    ("type", "__class__"),
    ("builtin_function_or_method",
      "__class_getitem__ __copy__ __dir__ __format__ __getstate__ __init_subclass__ __new__ " ++
      "__reduce__ __reduce_ex__ __reversed__ __sizeof__ __subclasshook__ append appendleft " ++
      "clear copy count extend extendleft index insert pop popleft remove reverse rotate"),
    ("str", "__doc__"),
    ("NoneType", "__hash__")]),
  ("dict", [
    ("type", "__class__"),
    ("builtin_function_or_method",
      "__class_getitem__ __contains__ __dir__ __format__ __getitem__ __getstate__ " ++
      "__init_subclass__ __new__ __reduce__ __reduce_ex__ __reversed__ __sizeof__ " ++
      "__subclasshook__ clear copy fromkeys get items keys pop popitem setdefault update values"),
    ("method-wrapper",
      "__delattr__ __delitem__ __eq__ __ge__ __getattribute__ __gt__ __init__ __ior__ __iter__ " ++
      "__le__ __len__ __lt__ __ne__ __or__ __repr__ __ror__ __setattr__ __setitem__ __str__"),
    ("str", "__doc__"),
    ("NoneType", "__hash__")]),
  ("date", [
    ("method-wrapper",
      "__add__ __delattr__ __eq__ __ge__ __getattribute__ __gt__ __hash__ __init__ __le__ " ++
      "__lt__ __ne__ __radd__ __repr__ __rsub__ __setattr__ __str__ __sub__"),
    ("type", "__class__"),
    ("builtin_function_or_method",
      "__dir__ __format__ __getstate__ __init_subclass__ __new__ __reduce__ __reduce_ex__ " ++
      "__sizeof__ __subclasshook__ ctime fromisocalendar fromisoformat fromordinal " ++
      "fromtimestamp isocalendar isoformat isoweekday replace strftime timetuple today " ++
      "toordinal weekday"),
    ("str", "__doc__")]),
  ("datetime", [
    ("method-wrapper",
      "__add__ __delattr__ __eq__ __ge__ __getattribute__ __gt__ __hash__ __init__ __le__ " ++
      "__lt__ __ne__ __radd__ __repr__ __rsub__ __setattr__ __str__ __sub__"),
    ("type", "__class__"),
    ("builtin_function_or_method",
      "__dir__ __format__ __getstate__ __init_subclass__ __new__ __reduce__ __reduce_ex__ " ++
      "__sizeof__ __subclasshook__ astimezone combine ctime date dst fromisocalendar " ++
      "fromisoformat fromordinal fromtimestamp isocalendar isoformat isoweekday now replace " ++
      "strftime strptime time timestamp timetuple timetz today toordinal tzname " ++
      "utcfromtimestamp utcnow utcoffset utctimetuple weekday"),
    ("str", "__doc__")]),
  ("time", [
    ("type", "__class__"),
    ("method-wrapper",
      "__delattr__ __eq__ __ge__ __getattribute__ __gt__ __hash__ __init__ __le__ __lt__ __ne__ " ++
      "__repr__ __setattr__ __str__"),
    ("builtin_function_or_method",
      "__dir__ __format__ __getstate__ __init_subclass__ __new__ __reduce__ __reduce_ex__ " ++
      "__sizeof__ __subclasshook__ dst fromisoformat isoformat replace strftime tzname " ++
      "utcoffset"),
    ("str", "__doc__")]),
  ("timedelta", [
    ("method-wrapper",
      "__abs__ __add__ __bool__ __delattr__ __divmod__ __eq__ __floordiv__ __ge__ " ++
      "__getattribute__ __gt__ __hash__ __init__ __le__ __lt__ __mod__ __mul__ __ne__ __neg__ " ++
      "__pos__ __radd__ __rdivmod__ __repr__ __rfloordiv__ __rmod__ __rmul__ __rsub__ " ++
      "__rtruediv__ __setattr__ __str__ __sub__ __truediv__"),
    ("type", "__class__"),
    ("builtin_function_or_method",
      "__dir__ __format__ __getstate__ __init_subclass__ __new__ __reduce__ __reduce_ex__ " ++
      "__sizeof__ __subclasshook__ total_seconds"),
    ("str", "__doc__")]),
  ("record", [
    ("dict", "__annotations__ __dataclass_fields__ __dict__"),
    ("type", "__class__"),
    ("_DataclassParams", "__dataclass_params__"),
    ("method-wrapper", "__delattr__ __ge__ __getattribute__ __gt__ __le__ __lt__ __ne__ __setattr__ __str__"),
    ("builtin_function_or_method",
      "__dir__ __format__ __getstate__ __init_subclass__ __new__ __reduce__ __reduce_ex__ " ++
      "__sizeof__ __subclasshook__"),
    ("str", "__doc__ __module__"),
    ("method", "__eq__ __init__ __repr__"),
    ("NoneType", "__hash__ __weakref__"),
    ("tuple", "__match_args__")]),
  ("frozenRecord", [
    ("dict", "__annotations__ __dataclass_fields__ __dict__"),
    ("type", "__class__"),
    ("_DataclassParams", "__dataclass_params__"),
    ("method", "__delattr__ __eq__ __hash__ __init__ __repr__ __setattr__"),
    ("builtin_function_or_method",
      "__dir__ __format__ __getstate__ __init_subclass__ __new__ __reduce__ __reduce_ex__ " ++
      "__sizeof__ __subclasshook__"),
    ("str", "__doc__ __module__"),
    ("method-wrapper", "__ge__ __getattribute__ __gt__ __le__ __lt__ __ne__ __str__"),
    ("tuple", "__match_args__"),
    ("NoneType", "__weakref__")]),
  ("AddressableHandle", [
    ("type", "__class__"),
    ("method-wrapper",
      "__delattr__ __eq__ __ge__ __getattribute__ __gt__ __hash__ __le__ __lt__ __ne__ " ++
      "__setattr__ __str__"),
    ("builtin_function_or_method",
      "__dir__ __format__ __getstate__ __init_subclass__ __new__ __reduce__ __reduce_ex__ " ++
      "__sizeof__ __subclasshook__"),
    ("NoneType", "__doc__"),
    ("method", "__init__ __repr__ accessor"),
    ("str", "__module__"),
    ("tuple", "__slots__")]),
  ("Obj", [
    ("type", "__class__"),
    ("method-wrapper",
      "__delattr__ __eq__ __ge__ __getattribute__ __gt__ __hash__ __le__ __lt__ __ne__ " ++
      "__setattr__"),
    ("dict", "__dict__"),
    ("builtin_function_or_method",
      "__dir__ __format__ __getstate__ __init_subclass__ __new__ __reduce__ __reduce_ex__ " ++
      "__sizeof__ __subclasshook__"),
    ("NoneType", "__doc__ __weakref__"),
    ("method", "__init__ __repr__ __str__"),
    ("str", "__module__")]),
  ("Proxy", [
    ("type", "__class__"),
    ("method-wrapper",
      "__delattr__ __eq__ __ge__ __getattribute__ __gt__ __hash__ __le__ __lt__ __ne__ " ++
      "__setattr__"),
    ("dict", "__dict__"),
    ("builtin_function_or_method",
      "__dir__ __format__ __getstate__ __init_subclass__ __new__ __reduce__ __reduce_ex__ " ++
      "__sizeof__ __subclasshook__"),
    ("NoneType", "__doc__ __weakref__"),
    ("method", "__init__ __repr__ __str__"),
    ("str", "__module__")]),
  ("TalkingInt", [
    ("method-wrapper",
      "__abs__ __add__ __and__ __bool__ __delattr__ __divmod__ __eq__ __float__ __floordiv__ " ++
      "__ge__ __getattribute__ __gt__ __hash__ __index__ __init__ __int__ __invert__ __le__ " ++
      "__lshift__ __lt__ __mod__ __mul__ __ne__ __neg__ __or__ __pos__ __pow__ __radd__ " ++
      "__rand__ __rdivmod__ __repr__ __rfloordiv__ __rlshift__ __rmod__ __rmul__ __ror__ " ++
      "__rpow__ __rrshift__ __rshift__ __rsub__ __rtruediv__ __rxor__ __setattr__ __sub__ " ++
      "__truediv__ __xor__"),
    ("builtin_function_or_method",
      "__ceil__ __dir__ __floor__ __format__ __getnewargs__ __getstate__ __init_subclass__ " ++
      "__reduce__ __reduce_ex__ __round__ __sizeof__ __subclasshook__ __trunc__ " ++
      "as_integer_ratio bit_count bit_length conjugate from_bytes to_bytes"),
    ("type", "__class__"),
    ("dict", "__dict__"),
    ("NoneType", "__doc__"),
    ("str", "__module__"),
    ("function", "__new__"),
    ("method", "__str__")]),
  ("ReferenceType", [
    ("method-wrapper",
      "__call__ __delattr__ __eq__ __ge__ __getattribute__ __gt__ __hash__ __init__ __le__ " ++
      "__lt__ __ne__ __repr__ __setattr__ __str__"),
    ("NoneType", "__callback__ __doc__"),
    ("type", "__class__"),
    ("builtin_function_or_method",
      "__class_getitem__ __dir__ __format__ __getstate__ __init_subclass__ __new__ __reduce__ " ++
      "__reduce_ex__ __sizeof__ __subclasshook__")]),
  ("enum", [
    ("EnumType", "__class__"),
    ("NoneType", "__doc__"),
    ("method-wrapper", "__eq__"),
    ("method", "__hash__ __repr__ __str__ __format__ __dir__ __reduce_ex__ __init__ _missing_"),
    ("str", "__module__")]),
  ("model", [
    ("method",
      "model_construct model_copy model_dump model_dump_json model_json_schema " ++
      "model_parametrized_name model_post_init model_rebuild model_validate model_validate_json " ++
      "model_validate_strings dict json parse_obj parse_raw parse_file from_orm construct copy " ++
      "schema schema_json validate update_forward_refs _iter _copy_and_set_values _get_value " ++
      "_calculate_keys __copy__ __deepcopy__ __eq__ __getstate__ __setstate__ __iter__ __repr__ " ++
      "__repr_args__ __repr_name__ __repr_str__ __pretty__ __rich_repr__ __str__ __init__ " ++
      "__setattr__ __delattr__ __getattr__ __replace__"),
    ("builtin_function_or_method",
      "__class_getitem__ __get_pydantic_core_schema__ __get_pydantic_json_schema__ " ++
      "__pydantic_init_subclass__ __init_subclass__ __dir__ __format__ __reduce__ __reduce_ex__ " ++
      "__sizeof__ __subclasshook__"),
    ("method-wrapper", "__ge__ __getattribute__ __gt__ __le__ __lt__ __ne__"),
    ("type", "__class__"),
    ("str", "__doc__ __module__"),
    ("dict",
      "__dict__ __annotations__ __pydantic_decorators__ __class_vars__ __private_attributes__ " ++
      "__pydantic_fields__ __pydantic_computed_fields__"),
    ("NoneType",
      "__hash__ __pydantic_extra__ __pydantic_private__ __pydantic_parent_namespace__ " ++
      "__pydantic_post_init__"),
    ("set", "__pydantic_fields_set__"),
    ("bool", "__pydantic_complete__ __pydantic_custom_init__ __pydantic_root_model__"),
    ("SchemaValidator", "__pydantic_validator__"),
    ("SchemaSerializer", "__pydantic_serializer__"),
    ("Signature", "__signature__"),
    ("tuple", "__slots__")])]

/-- The kind of object a named attribute of values of a kind is, if they have the attribute. -/
def attributeKind? (owner name : String) : Option String :=
  match attributeGroups.lookup owner with
  | none => none
  | some groups => (groups.find? fun (_, names) => (names.splitOn " ").contains name).map (·.1)

end FieldRules
