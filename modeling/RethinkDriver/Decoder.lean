import RethinkDriver.Msg

/-!
# Pseudo-type conversion

`core/converter/json_decoder.py`: `ReqlDecoder`, the default decoder class, runs
`convert_pseudo_type` as the object hook of `json.loads`, on each JSON object once it is
read, innermost first. An object tagged `$reql_type$` becomes the value it stands for;
a `GROUPED_DATA` object becomes a `dict` from each group to its reduction, its keys made
hashable by `make_hashable` (lists become tuples, objects frozen sets of pairs).

The `dict` that `convert_grouped_data` builds compares keys with Python's `==`
(`PyValue.pyEq`), under which `True`, `1` and `1.0` are one key. `dictInsert` is the
assignment its comprehension makes for each pair.

The TIME and BINARY converters build a `datetime` and a `ReqlBinary`, which the model does
not look into; they are parameters of `convertPseudoType`, and so is `json.dumps`, which
only the error messages use.
-/

namespace RethinkDriver

namespace PyValue

mutual
/-- Whether `v` is a value `json.loads` returns for JSON with no pseudo-type in it: `null`,
    a truth value, a number, a string, or an array or object of such values. -/
def isJson : PyValue → Bool
  | none | bool _ | int _ | float _ | str _ => true
  | list xs => isJsonList xs
  | dict es => isJsonEntries es
  | _ => false
termination_by structural v => v
/-- Every element is JSON. -/
def isJsonList : List PyValue → Bool
  | [] => true
  | x :: xs => isJson x && isJsonList xs
termination_by structural xs => xs
/-- Every key is a string and every value JSON. -/
def isJsonEntries : List (PyValue × PyValue) → Bool
  | [] => true
  | (str _, v) :: es => isJson v && isJsonEntries es
  | _ :: _ => false
termination_by structural es => es
end

end PyValue

mutual
/-- `make_hashable` (`json_decoder.py:143-158`): a `list` becomes a `tuple` and a `dict` a
    `frozenset` of its `(key, value)` pairs, recursively in the values; anything else is
    returned as it is. -/
def makeHashable : PyValue → PyValue
  | .list xs => .tuple (makeHashableList xs)
  | .dict es => .frozenset (makeHashableEntries es)
  | v => v
termination_by structural v => v
/-- `tuple(make_hashable(i) for i in obj)`. -/
def makeHashableList : List PyValue → List PyValue
  | [] => []
  | x :: xs => makeHashable x :: makeHashableList xs
termination_by structural xs => xs
/-- `(k, make_hashable(v)) for k, v in obj.items()`. -/
def makeHashableEntries : List (PyValue × PyValue) → List PyValue
  | [] => []
  | (k, v) :: es => .tuple [k, makeHashable v] :: makeHashableEntries es
termination_by structural es => es
end

/-- `k, v = item`: the item is iterated, and must give exactly two values. -/
def unpack2 (item : PyValue) : Except PyExc (PyValue × PyValue) := do
  match ← item.iter with
  | [k, v] => pure (k, v)
  | xs =>
    if xs.length < 2 then
      .error (.valueError s!"not enough values to unpack (expected 2, got {xs.length})")
    else .error (.valueError "too many values to unpack (expected 2)")

/-- `d[k] = v` in a `dict` being built, once `hash(k)` has succeeded: the first entry whose
    key is `==` to `k` takes the value and keeps its key; otherwise the pair is appended. -/
def dictInsert (k v : PyValue) : List (PyValue × PyValue) → List (PyValue × PyValue)
  | [] => [(k, v)]
  | e :: es => if e.1.pyEq k then (e.1, v) :: es else e :: dictInsert k v es

/-- One round of `{make_hashable(k): v for k, v in obj["data"]}`: unpack the item, then
    store the pair; `hash` raises `TypeError` for an unhashable key. -/
def groupStep (entries : List (PyValue × PyValue)) (item : PyValue) :
    Except PyExc (List (PyValue × PyValue)) := do
  let (k, v) ← unpack2 item
  let key := makeHashable k
  if key.hashable then pure (dictInsert key v entries) else .error .typeError

/-- `ReqlDecoder.convert_grouped_data` (`json_decoder.py:71-85`) on the `dict` `obj`. -/
def convertGroupedData (dumps : PyValue → Except PyExc String)
    (obj : List (PyValue × PyValue)) : Except PyExc PyValue :=
  match PyValue.lookupStr obj "data" with
  | none => do
    let text ← dumps (.dict obj)
    .error (reqlDriverError
      (s!"pseudo-type GROUPED_DATA object {text} does not" ++ "have the expected field \"data\"."))
  | some data => do
    let items ← data.iter
    let entries ← items.foldlM groupStep []
    pure (.dict entries)

/-- `ReqlDecoder.__convert_pseudo_type` (`json_decoder.py:103-115`) on the `dict` `obj`: the
    run option `formatName` picks between the converter (unset, `None` or `"native"`) and
    the object itself (`"raw"`). -/
def convertFormat (opts : Options) (formatName : String)
    (converter : List (PyValue × PyValue) → Except PyExc PyValue)
    (obj : List (PyValue × PyValue)) : Except PyExc PyValue :=
  match opts.get? formatName with
  | none | some .none | some (.str "native") => converter obj
  | some (.str "raw") => .ok (.dict obj)
  | some v => .error (reqlDriverError s!"Unknown {formatName} run option \"{v.toStr}\".")

/-- `ReqlDecoder.convert_pseudo_type` (`json_decoder.py:119-140`), the object hook, on the
    `dict` `obj`: the converter is looked up by `$reql_type$` (absent or `None` and
    `GEOMETRY` keep the object), an unknown tag raises, and so does a converter returning
    `None`. -/
def convertPseudoType (dumps : PyValue → Except PyExc String)
    (convertTime convertBinary : List (PyValue × PyValue) → Except PyExc PyValue)
    (opts : Options) (obj : List (PyValue × PyValue)) : Except PyExc PyValue := do
  let reqlType := (PyValue.lookupStr obj "$reql_type$").getD .none
  let converted ← match reqlType with
    | .none | .str "GEOMETRY" => pure (.dict obj)
    | .str "BINARY" => convertFormat opts "binary_format" convertBinary obj
    | .str "GROUPED_DATA" => convertFormat opts "group_format" (convertGroupedData dumps) obj
    | .str "TIME" => convertFormat opts "time_format" convertTime obj
    | v => if v.hashable then pure .none else .error .typeError
  match converted with
  | .none => .error (reqlDriverError s!"Unknown pseudo-type \"{reqlType.toStr}\"")
  | v => pure v

end RethinkDriver
