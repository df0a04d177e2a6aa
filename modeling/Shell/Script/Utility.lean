import Shell.Script.Lexeme
import Shell.Script.Runner

/-!
# Scripts — utilities

The commands that the interpreter runs itself and that need nothing of the rest of the script:
`echo`, `printf`, `read`, `cd`, `pwd`, `kill`, `test` and a few more (`Utility.run?`).  They read
and write through the runner's descriptors and give an exit code, or the signal that ends the
runner.
-/

namespace Shell.Script

namespace Utility

/-- The value of up to so many octal digits, and what follows them. -/
def octal (value : Nat) : Nat → List Char → Nat × List Char
  | digits + 1, c :: rest =>
      if '0' ≤ c && c ≤ '7' then octal (8 * value + (c.toNat - '0'.toNat)) digits rest
      else (value, c :: rest)
  | _, rest => (value, rest)

/-- The character of a one-letter escape. -/
def escape? : Char → Option Char
  | 'a' => some '\x07'
  | 'b' => some '\x08'
  | 'f' => some '\x0c'
  | 'n' => some '\n'
  | 'r' => some '\r'
  | 't' => some '\t'
  | 'v' => some '\x0b'
  | '\\' => some '\\'
  | _ => none

/-- The bytes of a text with its escapes carried out, and whether the text goes on to its end. -/
def escaped : Nat → List Char → Bytes × Bool
  | 0, _ | _, [] => ([], true)
  | _, ['\\'] => (Bytes.ofText "\\", true)
  | steps + 1, '\\' :: c :: rest =>
      let put (bytes : Bytes) (rest : List Char) : Bytes × Bool :=
        let (more, on) := escaped steps rest
        (bytes ++ more, on)
      if c = 'c' then ([], false)
      else if '0' ≤ c && c ≤ '7' then
        let (value, rest) := if c = '0' then octal 0 3 rest else octal 0 3 (c :: rest)
        put [value.toUInt8] rest
      else match escape? c with
        | some d => put (Bytes.ofText d.toString) rest
        | none => put (Bytes.ofText ("\\" ++ c.toString)) rest
  | steps + 1, c :: rest =>
      let (more, on) := escaped steps rest
      (Bytes.ofText c.toString ++ more, on)

/-- What `echo` writes. -/
def echoed (arguments : List String) : Bytes :=
  let (newline, words) := match arguments with
    | "-n" :: words => (false, words)
    | words => (true, words)
  let text := (" ".intercalate words).toList
  let (bytes, on) := escaped text.length text
  if newline && on then bytes ++ [Bytes.newline] else bytes

/-- One pass over a format, and the arguments that it did not use. -/
def format : Nat → List Char → List String → Bytes × List String
  | 0, _, arguments | _, [], arguments => ([], arguments)
  | steps + 1, '%' :: '%' :: rest, arguments =>
      let (more, arguments) := format steps rest arguments
      (Bytes.ofText "%" ++ more, arguments)
  | steps + 1, '%' :: 's' :: rest, arguments =>
      let (more, left) := format steps rest arguments.tail
      (Bytes.ofText (arguments.head?.getD "") ++ more, left)
  | steps + 1, '%' :: 'd' :: rest, arguments =>
      let (more, left) := format steps rest arguments.tail
      (Bytes.ofText (toString ((arguments.head?.bind String.toInt?).getD 0)) ++ more, left)
  | steps + 1, '\\' :: c :: rest, arguments =>
      let (bytes, _) := escaped 2 ['\\', c]
      let (more, arguments) := format steps rest arguments
      (bytes ++ more, arguments)
  | steps + 1, c :: rest, arguments =>
      let (more, arguments) := format steps rest arguments
      (Bytes.ofText c.toString ++ more, arguments)

/-- What `printf` writes: its format, again as long as there are arguments. -/
def formatted (text : List Char) : Nat → List String → Bytes
  | 0, _ => []
  | rounds + 1, arguments =>
      let (bytes, left) := format text.length text arguments
      if left = [] || left.length = arguments.length then bytes
      else bytes ++ formatted text rounds left

/-- The number of a signal. -/
def signal? (name : String) : Option Nat :=
  match name.toNat? with
  | some n => some n
  | none =>
      let name := if name.startsWith "SIG" then (name.drop 3).toString else name
      [("HUP", 1), ("INT", 2), ("QUIT", 3), ("ILL", 4), ("TRAP", 5), ("ABRT", 6), ("BUS", 7),
        ("FPE", 8), ("KILL", 9), ("USR1", 10), ("SEGV", 11), ("USR2", 12), ("PIPE", 13),
        ("ALRM", 14), ("TERM", 15), ("STKFLT", 16), ("XCPU", 24), ("XFSZ", 25), ("VTALRM", 26),
        ("PROF", 27), ("IO", 29), ("PWR", 30), ("SYS", 31)].lookup name

/-- The numbers that end nobody: no signal at all, and the signals that are passed over. -/
def harmless : List Nat := [0, 17, 18, 23, 28]

/-- Whether a test holds. -/
def holds (r : Runner) (arguments : List String) : Bool :=
  let node (path : String) : Option Node :=
    match r.machine.tree.locate r.cwd path with
    | .ok location => r.machine.tree.get? location
    | .error _ => none
  let number (text : String) : Int := text.toInt?.getD 0
  match arguments with
  | [] => false
  | [a] => a ≠ ""
  | ["!", a] => a = ""
  | ["-n", a] => a ≠ ""
  | ["-z", a] => a = ""
  | ["-e", a] => (node a).isSome
  | ["-f", a] => match node a with
      | some (.file _ _) | some (.tool _) => true
      | _ => false
  | ["-d", a] => (node a).any Node.isDirectory
  | ["-x", a] => (node a).any fun n => n.isExecutable || n.isDirectory
  | ["-s", a] => match node a with
      | some (.file _ content) => content ≠ []
      | _ => false
  | [a, "=", b] => a = b
  | [a, "!=", b] => a ≠ b
  | [a, "-eq", b] => number a = number b
  | [a, "-ne", b] => number a ≠ number b
  | [a, "-lt", b] => number a < number b
  | [a, "-le", b] => number a ≤ number b
  | [a, "-gt", b] => number a > number b
  | [a, "-ge", b] => number a ≥ number b
  | _ => false

/-- Take the backslashes out of a line that was read. -/
def unescaped : List Char → List Char
  | '\\' :: c :: rest => c :: unescaped rest
  | '\\' :: [] => []
  | c :: rest => c :: unescaped rest
  | [] => []

/-- Set variables to the fields of a line, the last one to everything that is left. -/
def distribute (r : Runner) (line : List Char) : List String → Runner
  | [] => r
  | [name] =>
      let strip (cs : List Char) := cs.dropWhile Runner.isSeparator
      r.assign name (String.ofList (strip (strip line).reverse).reverse)
  | name :: names =>
      let line := line.dropWhile Runner.isSeparator
      let field := line.takeWhile (!Runner.isSeparator ·)
      distribute (r.assign name (String.ofList field)) (line.drop field.length) names

/-- What a utility came to. -/
inductive Result where
  | code (code : Nat)
  /-- The interpreter is told to end with an exit code. -/
  | leave (code : Nat)
  | killed (signal : Nat)

/-- Write what a utility has to say. -/
def say (r : Runner) (line : Nat) (name : String) (bytes : Bytes) : Result × Runner :=
  match r.write 1 bytes with
  | (true, r) => (.code 0, r)
  | (false, r) =>
      (.code 1,
        r.complain (r.name ++ ": " ++ toString line ++ ": " ++ name ++ ": " ++ name
          ++ ": I/O error\n"))

/-- Run a utility, if the name is one. -/
def run? (r : Runner) (line : Nat) (name : String) (arguments : List String) :
    Option (Result × Runner) :=
  let origin := r.name ++ ": " ++ toString line ++ ": "
  match name with
  | ":" | "true" => some (.code 0, r)
  | "false" => some (.code 1, r)
  | "echo" => some (say r line name (echoed arguments))
  | "printf" =>
      match arguments with
      | [] => some (.code 2, r)
      | text :: rest => some (say r line name (formatted text.toList (rest.length + 1) rest))
  | "pwd" =>
      match r.machine.tree.isLiveDirectory r.cwd with
      | true => some (say r line name (Bytes.ofText (r.cwd.path ++ "\n")))
      | false => some (.code 1, r)
  | "cd" =>
      let path := arguments.head?.getD (r.value "HOME")
      match r.machine.tree.canonical r.cwd path with
      | .ok location =>
          if r.machine.tree.isLiveDirectory location then some (.code 0, { r with cwd := location })
          else some (.code 2, r.complain (origin ++ "cd: can't cd to " ++ path ++ "\n"))
      | .error _ => some (.code 2, r.complain (origin ++ "cd: can't cd to " ++ path ++ "\n"))
  | "read" =>
      let (raw, names) := match arguments with
        | "-r" :: names => (true, names)
        | names => (false, names)
      let ((bytes, ended), r) := r.readLine 0 [] (r.available 0 + 1)
      let text := ((bytes.text?).getD "").toList
      let r := distribute r (if raw then text else unescaped text) names
      some (.code (if ended then 0 else 1), r)
  | "exit" =>
      match arguments with
      | [] => some (.leave r.status, r)
      | code :: _ =>
          match code.toNat? with
          | some n => some (.leave (n % 256), r)
          | none => some (.leave 2, r.complain (origin ++ "exit: Illegal number: " ++ code ++ "\n"))
  | "shift" => some (.code 0, { r with arguments := r.arguments.tail })
  | "export" =>
      let r := arguments.foldl (fun r argument =>
        let name := argument.toList.takeWhile (· ≠ '=')
        let r := { r with exported := String.ofList name :: r.exported }
        if name.length < argument.length then
          r.assign (String.ofList name) (String.ofList (argument.toList.drop (name.length + 1)))
        else r) r
      some (.code 0, r)
  | "unset" =>
      some (.code 0, { r with vars := r.vars.filter (!arguments.contains ·.1) })
  | "kill" =>
      let (signal, targets) := match arguments with
        | "-s" :: signal :: targets => (signal? signal, targets)
        | first :: targets =>
            if first.startsWith "-" then (signal? (first.drop 1).toString, targets)
            else (some 15, first :: targets)
        | [] => (none, [])
      match signal with
      | none => some (.code 2, r)
      | some n =>
          if targets.contains (r.parameter "$") && !harmless.contains n then
            some (.killed n, r)
          else some (.code 0, r)
  | "test" => some (.code (if holds r arguments then 0 else 1), r)
  | "[" => some (.code (if holds r arguments.dropLast then 0 else 1), r)
  | _ => none

end Utility

end Shell.Script
