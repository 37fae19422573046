import RethinkDriver.Python

/-!
# The query printer

`core/q_printer.py`: `QueryPrinter` renders the term of a failed query and, under it, a line
of carets marking the subterm a backtrace addresses; `ReqlError.__str__`
(`core/errors.py:60-73`) prints both. The renderings are iterables of strings built from
`EnhancedTuple`s (`core/utilities.py:20-39`) and generator expressions.

`core/ast.py`, which defines the terms and their `compose`, is not in the repository. A term
here prints in call style, the way the spec's terms read: an opening text, its arguments and
`key=value` keyword arguments separated by a separator, and a closing text.

An object is a `str` or an iterable given by what iterating it yields. Generator
expressions are lazy, and laziness decides which frames are popped: `__compose_carets`
pops a frame and evaluates the keyword arguments when it is called, but the positional
arguments only when the generator it returns is run, and only the root's is run, by
`"".join`. `PObj.carets t f` is such a generator not yet run.
-/

namespace RethinkDriver

namespace QueryPrinter

/-- Modelled from the spec: a query term (`ast.ReqlQuery`), printed as `opening`, its
    arguments `_args` and keyword arguments `kwargs` separated by `sep`, then `closing`. -/
inductive Term where
  | call (opening sep closing : String) (args : List Term) (kwargs : List (String × Term))

/-- A backtrace frame: the position of an argument, or the name of a keyword argument. -/
inductive Frame where
  | pos (i : Nat)
  | opt (key : String)
  deriving DecidableEq, Repr

/-- An object the printer passes around: a `str`, an iterable by the objects it yields, or
    the generator `__compose_carets` returned for the term `t` after popping `f`, not yet
    run. -/
inductive PObj where
  | str (s : String)
  | iter (items : List PObj)
  | carets (t : Term) (f : Frame)

namespace PObj

/-- What `for x in o` yields, for an object whose iteration has no effect. -/
def items : PObj → List PObj
  | str s => s.toList.map fun c => str (String.singleton c)
  | iter xs => xs
  | carets _ _ => []

/-- `i == "^"`: only a `str` can be equal to one. -/
def isCaret : PObj → Bool
  | str s => s = "^"
  | _ => false

end PObj

/-- `EnhancedTuple(*sequence, int_separator=sep)` (`utilities.py:20-39`): iterating it yields
    what each element yields, with what `sep` yields between two elements. -/
def enhancedTuple (sequence : List PObj) (sep : PObj) : PObj :=
  .iter (match sequence with
    | [] => []
    | t :: ts => t.items ++ ts.flatMap fun t => sep.items ++ t.items)

/-- Modelled from the spec: `compose(*args, **kwargs)` of a call-style term, which lays out
    the pieces it is given in order. -/
def callCompose (opening sep closing : String) (args : List PObj) (kwargs : List (String × PObj)) :
    PObj :=
  enhancedTuple [.str opening,
    enhancedTuple (args ++ kwargs.map fun kv => enhancedTuple [.str kv.1, .str "=", kv.2] (.str ""))
      (.str sep),
    .str closing] (.str "")

mutual
/-- `__compose_term(term)` (`q_printer.py:29-39`): `term.compose(*args, **kwargs)` over the
    renderings of the arguments. -/
def composeTerm : Term → PObj
  | .call opening sep closing args kwargs =>
    callCompose opening sep closing (composeArgs args) (composeKwargs kwargs)
termination_by structural t => t
/-- `(self.__compose_term(arg) for arg in term._args)`, unpacked by `*`. -/
def composeArgs : List Term → List PObj
  | [] => []
  | a :: as => composeTerm a :: composeArgs as
termination_by structural as => as
/-- `{k: self.__compose_term(v) for k, v in term.kwargs.items()}`. -/
def composeKwargs : List (String × Term) → List (String × PObj)
  | [] => []
  | (k, v) :: kvs => (k, composeTerm v) :: composeKwargs kvs
termination_by structural kvs => kvs
end

mutual
/-- A call of `__compose_carets(term, frames)` (`q_printer.py:41-63`), up to its `return`:
    with no frame left, a generator of one `^` per piece of the term; otherwise it pops the
    first frame and evaluates the keyword-argument `dict`, whose addressed value is a call
    of its own. The positional arguments wait for the generator to run. -/
def caretsCall : Term → StateM (List Frame) PObj
  | t@(.call _ _ _ _ kwargs) => fun frames =>
    match frames with
    | [] => (.iter ((composeTerm t).items.map fun _ => .str "^"), [])
    | f :: rest =>
      let (_, frames') := caretsKwargs f kwargs rest
      (.carets t f, frames')
termination_by structural t => t
/-- The `dict` comprehension over `term.kwargs.items()`: the value under the current frame's
    name is a call of `__compose_carets`, the others `__compose_term`. -/
def caretsKwargs (f : Frame) : List (String × Term) → StateM (List Frame) (List (String × PObj))
  | [] => pure []
  | (k, v) :: kvs => do
    let o ← if f = .opt k then caretsCall v else pure (composeTerm v)
    let os ← caretsKwargs f kvs
    pure ((k, o) :: os)
termination_by structural kvs => kvs
/-- Running the generator expression over `enumerate(term._args)`: the argument at the
    current frame's position is a call of `__compose_carets`, the others `__compose_term`. -/
def caretsArgs (f : Frame) : Nat → List Term → StateM (List Frame) (List PObj)
  | _, [] => pure []
  | i, a :: as => do
    let o ← if f = .pos i then caretsCall a else pure (composeTerm a)
    let os ← caretsArgs f (i + 1) as
    pure (o :: os)
termination_by structural _ as => as
end

/-- Running the generator `__compose_carets(term, frames)` returned after popping `f`:
    `("^" if i == "^" else " " for i in term.compose(args, kwargs))`, where `compose` gets the
    argument generator and the keyword `dict` as two positional arguments, and a `dict`
    yields its keys. -/
def runCarets : Term → Frame → StateM (List Frame) (List PObj)
  | .call opening sep closing args kwargs, f => do
    let argObjs ← caretsArgs f 0 args
    let pieces := (callCompose opening sep closing
      [.iter argObjs, .iter (kwargs.map fun kv => .str kv.1)] []).items
    pure (pieces.map fun i => .str (if i.isCaret then "^" else " "))

/-- `"".join(pieces)`: every piece must be a string. -/
def joinPieces (pieces : List PObj) : Except PyExc String :=
  pieces.foldlM (fun acc x => match x with
    | .str s => .ok (acc ++ s)
    | _ => .error .typeError) ""

/-- `QueryPrinter.query` (`q_printer.py:15-20`). -/
def query (root : Term) : Except PyExc String :=
  joinPieces (composeTerm root).items

/-- `QueryPrinter.carets` (`q_printer.py:22-27`), on the printer's `frames` list: the join
    runs the generator the root call returned. -/
def carets (root : Term) : StateM (List Frame) (Except PyExc String) := do
  let pieces ← match ← caretsCall root with
    | .carets t f => runCarets t f
    | o => pure o.items
  pure (joinPieces pieces)

end QueryPrinter

/-- `message.rstrip('.')`. -/
def rstripDots (message : String) : String :=
  String.mk (message.toList.reverse.dropWhile (· = '.')).reverse

/-- `ReqlError.__str__` (`errors.py:66-73`) for an error built with a term and frames: the
    printer holds the error's own `frames` list, and `carets` runs after `query`. -/
def reqlErrorStr (message : String) (root : QueryPrinter.Term) :
    StateM (List QueryPrinter.Frame) (Except PyExc String) :=
  match QueryPrinter.query root with
  | .error e => pure (.error e)
  | .ok q => do
    let c ← QueryPrinter.carets root
    pure (c.map fun c => s!"{rstripDots message} in:\n{q}\n{c}")

end RethinkDriver
