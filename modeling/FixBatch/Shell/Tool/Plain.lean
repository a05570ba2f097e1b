import FixBatch.Shell.Format
import FixBatch.Shell.Tool.Text

/-!
# FixBatch.Shell.Tool.Plain

Programs that write their arguments, or run other programs.
-/

namespace FixBatch.Shell.Tool

open Work

variable {m : Type → Type} [Monad m]

/-! ## Writing -/

/-- The options of an echo, and the other arguments: whether the line feed is left out, and whether
escapes are carried out. -/
def echoOptions (known : List Char) : Bool → Bool → List Bytes → Bool × Bool × List Bytes
  | bareEnd, escapes, args@(arg :: rest) =>
    match arg.toList with
    | '-' :: c :: cs =>
      if (c :: cs).all known.contains then
        let escapes := ((c :: cs).filter (· != 'n')).getLast?.elim escapes (· == 'e')
        echoOptions known (bareEnd || (c :: cs).contains 'n') escapes rest
      else (bareEnd, escapes, args)
    | _ => (bareEnd, escapes, args)
  | bareEnd, escapes, [] => (bareEnd, escapes, [])

/-- What an echo writes that has these options. -/
def echoed (known : List Char) (escapes : Bool) (style : EscapeStyle) (args : List Bytes) : Bytes :=
  let (bareEnd, escapes, words) := echoOptions known false escapes args
  let text := String.intercalate " " words
  let (text, stops) := if escapes then
      let (cs, stops) := unescape style text.toList
      (String.ofList cs, stops)
    else (text, false)
  text ++ if bareEnd || stops then "" else "\n"

/-- Writes its arguments. -/
def echo : Work m Unit := do
  say (echoed ['n', 'e', 'E'] false echoStyle (← errand).args)

/-- Writes its arguments in a format. -/
def printf : Work m Unit := do
  match (← errand).args with
  | [] => usageFault "missing operand"
  | "--" :: [] => usageFault "missing operand"
  | "--" :: format :: args => write format args
  | format :: args => write format args
where
  /-- Writes arguments in a format. -/
  write (format : Bytes) (args : List Bytes) : Work m Unit := do
    let (f, fault) := formatted .program format args
    say f.out
    f.complaints.forM fun complaint => warn complaint
    match fault with
    | some complaint => warn complaint
    | none =>
      if !f.used && !f.stopped && !f.args.isEmpty then
        tell ((← errand).name ++ ": warning: ignoring excess arguments, starting with " ++
          quote (f.args.headD "") ++ "\n")

/-! ## Other programs -/

/-- Runs a program as the last thing that is done. -/
def become (environment : List (Bytes × Bytes)) (words : List Bytes) : Work m Unit := do
  match ← run true environment words with
  | .ok ending => endLike ending
  | .error cause => do
    let shown := quote (words.headD "")
    if cause = .notFound then die (shown ++ ": " ++ cause.text) 127
    else die (shown ++ ": " ++ cause.text) 126

/-- Writes the environment, or runs a program in another one. -/
def env : Work m Unit := do
  let e ← errand
  let g ← options [flag 'i' "ignore-environment"] 125 false
  let start := if g.has 'i' then [] else e.environment
  let assignments := g.operands.takeWhile fun a => a.toList.contains '='
  let words := g.operands.drop assignments.length
  let environment := assignments.foldl (fun (env : List (Bytes × Bytes)) a =>
    let name := String.ofList (a.toList.takeWhile (· != '='))
    let value := String.ofList ((a.toList.dropWhile (· != '=')).drop 1)
    if (env.lookup name).isSome then env.map fun v => if v.1 == name then (name, value) else v
    else env ++ [(name, value)]) start
  if words.isEmpty then
    say (String.join (environment.map fun (n, v) => n ++ "=" ++ v ++ "\n"))
  else become environment words

end FixBatch.Shell.Tool
