import TargetPicker.Shell.Reader

/-!
# The grammar of scripts

A script is read one complete command at a time (`Reader.nextCommand?`), so that what stands before
a fault of the grammar is carried out.

Where a word ends depends on what is open in it: quotes, braces of parameters, brackets of
arithmetic.  These nest, and so a word that is being read has a stack of *levels*, which say how
characters are taken, and a stack of *frames*, which hold the pieces read so far.  The output of a
command stands in a word as well, so words and commands are read by one recursion.  It descends on a
number that the length of the script bounds.
-/

namespace TargetPicker.Shell

/-- The commands whose faults end a script; no function can have their names. -/
def specialNames : List String :=
  [".", ":", "break", "continue", "eval", "exec", "exit", "export", "local", "readonly", "return",
   "set", "shift", "trap", "unset"]

/-! ## Words that are being read -/

/-- How characters are taken. -/
inductive Quoting where
  | none
  | single
  | double
  | arithmetic
  deriving DecidableEq, Repr, Inhabited

/-- What is open in a word, as far as one kind of quoting reaches. -/
structure Level where
  quoting : Quoting
  /-- Holds within double quotes. -/
  inDouble : Bool := false
  /-- Holds within double quotes that were opened inside braces. -/
  innerDouble : Bool := false
  /-- The number of open braces, and of those that were opened within double quotes. -/
  braces : Nat := 0
  doubleBraces : Nat := 0
  brackets : Nat := 0
  /-- Holds of a level that a brace has opened and that ends with it. -/
  ofBrace : Bool := false
  deriving Repr, Inhabited

/-- What the pieces of a frame will be the inside of. -/
inductive Frame where
  | parameter (name : Text) (use : Use) (orEmpty : Bool)
  | arithmetic

/-- The piece that a frame makes of its inside. -/
def Frame.close (f : Frame) (inside : Word) : Piece :=
  match f with
  | parameter name use orEmpty => .parameter name use orEmpty inside
  | arithmetic => .arithmetic inside

/-- What a word is read for. -/
inductive Purpose where
  | ordinary
  /-- The text of a here-document, up to a line. -/
  | here (delimiter : Text) (dropsTabs : Bool)
  /-- A text that is expanded as a whole. -/
  | prompt
  deriving DecidableEq, Repr, Inhabited

/-- A word that is being read. -/
structure Partial where
  purpose : Purpose
  top : Level
  /-- The levels around the present one. -/
  outer : List Level := []
  /-- The pieces of the innermost frame, the last one first. -/
  back : Word := []
  /-- The open frames with the pieces around them. -/
  frames : List (Frame × Word) := []
  quoted : Bool := false

namespace Partial

/-- A word before its first character. -/
def start (purpose : Purpose) (quoting : Quoting) : Partial :=
  { purpose, top := { quoting, inDouble := quoting == .double } }

/-- Adds a piece. -/
def add (w : Partial) (piece : Piece) : Partial := { w with back := piece :: w.back }

/-- Adds a quote, which only ordinary words keep. -/
def addQuote (w : Partial) : Partial := if w.purpose == .ordinary then w.add .quote else w

/-- Adds a character as the quoting takes it. -/
def addChar (w : Partial) (c : Char) : Partial :=
  w.add <| match w.top.quoting with
    | .single => if w.purpose == .ordinary || w.top.inDouble then .exact c else .plain c
    | .double => .exact c
    | _ => .plain c

/-- Opens a frame. -/
def openFrame (w : Partial) (frame : Frame) : Partial :=
  { w with frames := (frame, w.back) :: w.frames, back := [] }

/-- Closes the innermost frame. -/
def closeFrame (w : Partial) : Partial :=
  match w.frames with
  | (frame, before) :: frames =>
    { w with back := frame.close w.back.reverse :: before, frames }
  | [] => w

/-- Opens a level. -/
def push (w : Partial) (level : Level) : Partial :=
  { w with top := level, outer := w.top :: w.outer }

/-- Goes back to the level around the present one. -/
def pop (w : Partial) : Partial :=
  match w.outer with
  | top :: outer => { w with top, outer }
  | [] => w

/-- Passes a double quote that opens or closes. -/
def toggleDouble (w : Partial) : Partial :=
  let innerDouble := if w.top.braces == 0 then w.top.innerDouble else !w.top.innerDouble
  { w with top := { w.top with innerDouble } }.addQuote

/-- Passes a quote that opens. -/
def openQuote (w : Partial) (c : Char) : Partial :=
  if c == '"' then
    { w with top := { w.top with quoting := .double, inDouble := true } }.toggleDouble
  else { w with top := { w.top with quoting := .single } }.addQuote

/-- Passes a quote that closes.  In the text of a here-document it is a character like others. -/
def closeQuote (w : Partial) (c : Char) : Partial :=
  if w.purpose != .ordinary && w.top.braces == 0 then w.add (.plain c)
  else
    let top := if w.top.doubleBraces == 0 then
        { w.top with quoting := .none, inDouble := false }
      else w.top
    let w := { w with top, quoted := true }
    if c == '"' then w.toggleDouble else w.addQuote

/-- Passes a closing brace. -/
def closeBrace (w : Partial) : Partial :=
  let top := w.top
  if top.innerDouble || top.braces == 0 then w.add (.plain '\x7d')
  else
    let w := { w with top := { top with braces := top.braces - 1 } }
    if top.braces == 1 && top.ofBrace then w.pop.closeFrame
    else
      let doubleBraces := top.doubleBraces - 1
      { w with top := { w.top with doubleBraces } }.closeFrame

/-- Opens the braces of a parameter.  Inside arithmetic they are taken as within double quotes; the
patterns that trim a parameter are never taken so. -/
def openBrace (w : Partial) (name : Text) (use : Use) (orEmpty : Bool) : Partial :=
  let own := if w.top.quoting == .arithmetic then .double else w.top.quoting
  let quoting := match use with
    | .withoutStart _ | .withoutEnd _ => .none
    | _ => own
  let w := if quoting != w.top.quoting || w.top.innerDouble then
      w.push { quoting, inDouble := quoting != .none, ofBrace := true }
    else w
  let doubleBraces := w.top.doubleBraces + if w.top.inDouble then 1 else 0
  { w with top := { w.top with braces := w.top.braces + 1, doubleBraces } }.openFrame
    (.parameter name use orEmpty)

/-- Passes an escaped character.  Within double quotes the backslash stays in front of most. -/
def addEscaped (w : Partial) (c : Char) : Partial :=
  let isHere := w.purpose != .ordinary
  let inBraces := w.top.braces != 0
  let staysEscape := c == '\\' || c == '`' || c == '$' || (c == '"' && (!isHere || inBraces)) ||
    (c == '\x7d' && inBraces)
  let w := if w.top.inDouble && !staysEscape then w.add (.exact '\\') else w
  { w.add (.exact c) with quoted := true }

/-- The word, if nothing is open at its end, or else what is wrong. -/
def finish (w : Partial) : Except String Word :=
  if w.top.quoting == .arithmetic then .error "Missing '))'"
  else if w.top.quoting != .none && w.purpose == .ordinary then
    .error "Unterminated quoted string"
  else if w.top.braces != 0 then .error "Missing '\x7d'"
  else .ok w.back.reverse

end Partial

/-- The characters that end a word where nothing is open. -/
def endsWord (c : Char) : Bool := "<>();&| \t".toList.contains c

/-- The parameters that are no variables. -/
def isSpecialParameter (c : Char) : Bool := c.isDigit || "$*@#?!-".toList.contains c

/-- What the sign after a name stands for. -/
def useOfSign? (c : Char) : Option Use :=
  match c with
  | '-' => some .otherwise
  | '+' => some .instead
  | '?' => some .demand
  | '=' => some .assign
  | _ => none

namespace Reading

/-! ## Signs -/

/-- The next character, as the quoting has it. -/
def nextOf (w : Partial) : Reading (Option Char) :=
  if w.top.quoting == .single then next else nextJoined

/-- The rest of the sign of a redirection from a descriptor to a file. -/
def outwardOf : Reading Opening := do
  if ← passes '>' then return .file .append
  else if ← passes '|' then return .file .overwrite
  else if ← passes '&' then return .copy
  else return .file .write

/-- The rest of the sign of a redirection of a file to a descriptor. -/
def inwardOf : Reading Opening := do
  if ← passes '<' then return .here (← passes '-')
  else if ← passes '&' then return .copy
  else if ← passes '>' then return .file .update
  else return .file .read

/-- The sign of a redirection, of which the first character was read. -/
def openingOf (first : Char) (descriptor : Option Nat) : Reading Token := do
  let isOutward := first == '>'
  let kind ← if isOutward then outwardOf else inwardOf
  modify fun r => { r with opening := (descriptor.getD (if isOutward then 1 else 0), kind) }
  found .redirection

/-- The descriptor that a word names right before a redirection: one digit, or none at all. -/
def descriptor? (word : Word) : Option (Option Nat) :=
  match word with
  | [] => some none
  | [.plain c] => if c.isDigit then some (some (c.toNat - '0'.toNat)) else none
  | _ => none

/-- Ends a word before a character. -/
def endWord (w : Partial) (c : Option Char) : Reading Token := do
  match w.finish with
  | .error why => fail why.toList
  | .ok word =>
    match c, descriptor? word with
    | some c, some descriptor =>
      if w.purpose == .ordinary && !w.quoted && (c == '<' || c == '>') then
        openingOf c descriptor
      else
        giveBack (some c)
        modify fun r => { r with word, quoted := w.quoted }
        found .word
    | c, _ =>
      if w.purpose == .ordinary then giveBack c
      modify fun r => { r with word, quoted := w.quoted }
      found .word

/-- The use of a braced parameter after its name, or `none` for its plain value; `c` is the
character after the name. -/
def useOf (c : Option Char) : Reading (Option Use × Bool) := do
  match c with
  | some ':' =>
    match ← nextJoined with
    | some '\x7d' => return (some .value, true)
    | some d => return (some ((useOfSign? d).getD .unknown), true)
    | none => return (some .unknown, true)
  | some '#' => return (some (.withoutStart (← passes '#')), false)
  | some '%' => return (some (.withoutEnd (← passes '%')), false)
  | some '\x7d' => return (none, false)
  | some d => return (some ((useOfSign? d).getD .unknown), false)
  | none => return (some .unknown, false)

/-- A parameter in braces, after the opening brace. -/
def bracedParameter (n : Nat) (w : Partial) : Reading Partial := do
  let afterName (name : Text) (isSize : Bool) : Reading Partial := do
    if isSize then
      let c ← nextJoined
      giveBack c
      return w.openBrace name (if c == some '\x7d' then .size else .unknown) false
    else
      match ← useOf (← nextJoined) with
      | (none, _) => return w.add (.parameter name .value false [])
      | (some use, orEmpty) => return w.openBrace name use orEmpty
  let named (c : Char) (isSize : Bool) : Reading Partial := do
    giveBack (some c)
    let name ← taking (if c.isDigit then Char.isDigit else isNameChar) n
    afterName name isSize
  let c ← nextJoined
  match c with
  | none => return w.openBrace [] .unknown false
  | some '\x7d' =>
    giveBack c
    return w.openBrace [] .unknown false
  | some '#' =>
    let d ← nextJoined
    match d with
    | some d =>
      if isNameChar d then named d true
      else
        let e ← nextJoined
        giveBack e
        if d == '\x7d' || e != some '\x7d' then
          giveBack (some d)
          afterName ['#'] false
        else if isSpecialParameter d then afterName [d] true
        else return w.openBrace [] .unknown false
    | none => afterName ['#'] false
  | some c =>
    if isNameStart c || c.isDigit then named c false
    else if isSpecialParameter c then afterName [c] false
    else
      let d ← nextJoined
      giveBack d
      return w.openBrace [] .unknown false

/-- The script between backticks, where a backslash goes away in front of some characters. -/
def tickScript (inDouble : Bool) : Nat → Reading Text
  | 0 => return []
  | n + 1 => do
    match ← nextJoined with
    | none => fail "EOF in backquote substitution".toList
    | some '`' => return []
    | some '\\' =>
      match ← next with
      | none => fail "EOF in backquote substitution".toList
      | some c =>
        let goes := c == '\\' || c == '`' || c == '$' || (inDouble && c == '"')
        let rest ← tickScript inDouble n
        return if goes then c :: rest else '\\' :: c :: rest
    | some c =>
      if c == '\n' then countLine
      return c :: (← tickScript inDouble n)

/-- Runs a reading on a script of its own. -/
def within {α : Type} (script : Text) (reading : Reading α) : Reading α := do
  let outer ← get
  set { Reader.ofText script 1 with aliases := outer.aliases, nextText := outer.nextText }
  let result ← reading
  let inner ← get
  set { outer with
    nextText := inner.nextText, texts := inner.texts ++ outer.texts, expectation := {} }
  return result

/-! ## Tokens and commands -/

mutual

/-- Takes the characters of a word from one on, and ends it. -/
def wordFrom : Nat → Partial → Option Char → Reading Token
  | 0, _, _ => fail "Out of range".toList
  | _ + 1, w, none => endWord w none
  | n + 1, w, some c => do
    let goOn (w : Partial) : Reading Token := do
      let c ← nextOf w
      wordFrom n w c
    let quoting := w.top.quoting
    if c == '\n' then
      if quoting == .none && w.top.braces == 0 then endWord w (some c)
      else
        countLine
        let w := w.addChar c
        let c ← nextOf w
        lineFrom n w c
    else if quoting == .single then
      goOn (if c == '\'' then w.closeQuote c else w.addChar c)
    else if c == '\\' then
      match ← next with
      | none => goOn (w.add (.exact '\\'))
      | some c => goOn (w.addEscaped c)
    else if c == '$' then
      let w ← dollar n w
      goOn w
    else if c == '`' then
      if (← get).expectation.verbatim then
        goOn { w.add (.plain c) with quoted := true }
      else
        let script ← tickScript w.top.inDouble n
        let command ← within script (list false true n)
        goOn (w.add (.output (command.getD .nothing)))
    else if c == '\x7d' then goOn w.closeBrace
    else
      match quoting with
      | .none =>
        if c == '\'' || c == '"' then goOn (w.openQuote c)
        else if endsWord c && w.top.braces == 0 then endWord w (some c)
        else goOn (w.addChar c)
      | .double => goOn (if c == '"' then w.closeQuote c else w.addChar c)
      | _ =>
        if c == '(' then
          goOn { w.addChar c with top := { w.top with brackets := w.top.brackets + 1 } }
        else if c == ')' then
          if w.top.brackets != 0 then
            goOn { w.addChar c with top := { w.top with brackets := w.top.brackets - 1 } }
          else if ← passes ')' then goOn w.pop.closeFrame
          else goOn (w.addChar c)
        else goOn (w.addChar c)
termination_by structural n => n

/-- Takes the characters of a word from the first one of a line on. -/
def lineFrom : Nat → Partial → Option Char → Reading Token
  | 0, _, _ => fail "Out of range".toList
  | n + 1, w, c => do
    match w.purpose with
    | .here delimiter dropsTabs =>
      giveBack c
      if ← endsHere delimiter dropsTabs then endWord w none
      else
        let c ← nextOf w
        wordFrom n w c
    | _ => wordFrom n w c
termination_by structural n => n

/-- What a dollar sign starts. -/
def dollar : Nat → Partial → Reading Partial
  | 0, _ => fail "Out of range".toList
  | n + 1, w => do
    let c ← nextJoined
    if (← get).expectation.verbatim then
      giveBack c
      return w.add (.plain '$')
    else match c with
      | some '(' =>
        if ← passes '(' then
          return (w.openFrame .arithmetic).push { quoting := .arithmetic, inDouble := true }
        else
          let outer ← get
          set { outer with announced := [] }
          let command ← list false true n
          if (← readToken n) != .operator ")" then refuseFor (.operator ")")
          modify fun r => { r with announced := outer.announced }
          return w.add (.output (command.getD .nothing))
      | some '\x7b' => bracedParameter n w
      | some c =>
        if isNameStart c then
          giveBack (some c)
          let name ← taking isNameChar n
          return w.add (.parameter name .value false [])
        else if isSpecialParameter c then return w.add (.parameter [c] .value false [])
        else
          giveBack (some c)
          return w.add (.plain '$')
      | none => return w.add (.plain '$')
termination_by structural n => n

/-- The next token, whatever is looked for. -/
def rawToken : Nat → Reading Token
  | 0 => fail "Out of range".toList
  | n + 1 => do
    let r ← get
    if r.isBack then
      set { r with isBack := false }
      return r.token
    else
      let inUse := r.sources.filterMap fun s => if s.text.isEmpty then none else s.aliasName
      set { r with inUse }
      let operator (name : String) : Reading Token := found (.operator name)
      match ← nextJoined with
      | none => found .endOfFile
      | some '\n' =>
        countLine
        found .lineEnd
      | some '#' =>
        skipLine
        rawToken n
      | some '&' => operator (if ← passes '&' then "&&" else "&")
      | some '|' => operator (if ← passes '|' then "||" else "|")
      | some ';' => operator (if ← passes ';' then ";;" else ";")
      | some '(' => operator "("
      | some ')' => operator ")"
      | some c =>
        if c == ' ' || c == '\t' then rawToken n
        else wordFrom n (Partial.start .ordinary .none) (some c)
termination_by structural n => n

/-- A token after the line ends in front of it, where here-documents may stand. -/
def passLines : Nat → Token → Reading Token
  | 0, t => return t
  | n + 1, t => do
    if t == .lineEnd then
      readHere n
      expect {}
      let t ← rawToken n
      passLines n t
    else return t
termination_by structural n => n

/-- The next token, for what is looked for in it. -/
def tokenFor : Nat → Expectation → Reading Token
  | 0, _ => fail "Out of range".toList
  | n + 1, wanted => do
    let t ← rawToken n
    let t ← if wanted.passesLines then passLines n t else pure t
    let wanted := wanted.or (← get).expectation
    expect {}
    let r ← get
    if t != .word || r.quoted then return t
    else match Word.text? r.word with
      | none => return t
      | some text =>
        match reservedWords.find? fun name => wanted.reserved && name.toList == text with
        | some name => found (.reserved name)
        | none =>
          match ← alias? text with
          | some value =>
            if wanted.aliases then
              insertAlias text value
              tokenFor n wanted
            else return t
          | none => return t
termination_by structural n => n

/-- The next token, for what is looked for now. -/
def readToken : Nat → Reading Token
  | 0 => fail "Out of range".toList
  | n + 1 => do tokenFor n (← get).expectation
termination_by structural n => n

/-- Reads the here-documents that were announced, after a line end. -/
def readHere : Nat → Reading Unit
  | 0 => fail "Out of range".toList
  | n + 1 => do
    let r ← get
    match r.announced with
    | [] => pure ()
    | here :: announced =>
      set { r with announced, isBack := false }
      let quoting := if here.expands then Quoting.double else .single
      let w := Partial.start (.here here.delimiter here.dropsTabs) quoting
      let c ← nextOf w
      let _ ← lineFrom n w c
      modify fun s =>
        { s with texts := (here.index, s.word) :: s.texts, token := r.token, isBack := r.isBack }
      readHere n
termination_by structural n => n

/-- The word after the sign of a redirection. -/
def redirect : Nat → Reading Redirect
  | 0 => fail "Out of range".toList
  | n + 1 => do
    let (descriptor, opening) := (← get).opening
    match opening with
    | .here _ => expect { verbatim := true }
    | _ => pure ()
    if (← readToken n) != .word then refuse
    let r ← get
    match opening with
    | .file use => return .file descriptor use r.word
    | .copy => return .copy descriptor r.word
    | .here dropsTabs =>
      let index ← announce (Word.unquoted r.word) dropsTabs (!r.quoted)
      return .here descriptor index (!r.quoted)
termination_by structural n => n

/-- The redirections that come next, after those of `back`. -/
def redirects : Nat → List Redirect → Reading (List Redirect)
  | 0, _ => fail "Out of range".toList
  | n + 1, back => do
    if (← readToken n) == .redirection then
      let r ← redirect n
      redirects n (r :: back)
    else
      stepBack
      return back.reverse
termination_by structural n => n

/-- A list of commands.  At the top it ends with the line, and nothing is found at the end of the
script; elsewhere it ends before a token that closes, and is empty only if it may be. -/
def list (isTop mayBeEmpty : Bool) : Nat → Reading (Option Command)
  | 0 => fail "Out of range".toList
  | n + 1 => listFrom isTop mayBeEmpty n none
termination_by structural n => n

/-- The rest of a list of commands. -/
def listFrom (isTop mayEnd : Bool) : Nat → Option Command → Reading (Option Command)
  | 0, _ => fail "Out of range".toList
  | n + 1, before => do
    let whole (c : Option Command) : Option Command := if isTop then c else some (c.getD .nothing)
    expect { passesLines := !isTop, reserved := true, aliases := true }
    match ← readToken n with
    | .lineEnd =>
      readHere n
      return some (before.getD .nothing)
    | .endOfFile =>
      readHere n
      let _ ← found .endOfFile
      stepBack
      return whole before
    | token =>
      stepBack
      if !isTop && mayEnd && token.closes then return whole before
      else
        let c ← logical n
        let token ← readToken n
        let c := if token == .operator "&" then
            match c with
            | .pipeline _ stages => .pipeline true stages
            | .redirected line c redirects => .background (some line) c redirects
            | c => .background none c []
          else c
        let all := match before with
          | none => c
          | some before => .sequence before c
        match token with
        | .endOfFile =>
          readHere n
          let _ ← found .endOfFile
          stepBack
          return some all
        | .lineEnd =>
          stepBack
          listFrom isTop (mayEnd || !isTop) n (some all)
        | .operator name =>
          if name == "&" || name == ";" then
            listFrom isTop (mayEnd || !isTop) n (some all)
          else if isTop then refuse
          else
            stepBack
            return some all
        | _ =>
          if isTop then refuse
          else
            stepBack
            return some all
termination_by structural n => n

/-- Pipelines joined by `&&` and `||`. -/
def logical : Nat → Reading Command
  | 0 => fail "Out of range".toList
  | n + 1 => do
    let first ← pipeline n
    logicalFrom n first
termination_by structural n => n

/-- What is joined to a pipeline. -/
def logicalFrom : Nat → Command → Reading Command
  | 0, _ => fail "Out of range".toList
  | n + 1, first => do
    let token ← readToken n
    if token == .operator "&&" || token == .operator "||" then
      expect .ofCommand
      let second ← pipeline n
      logicalFrom n (if token == .operator "&&" then .both first second else .either first second)
    else
      stepBack
      return first
termination_by structural n => n

/-- Commands joined by `|`, perhaps negated. -/
def pipeline : Nat → Reading Command
  | 0 => fail "Out of range".toList
  | n + 1 => do
    let negated := (← readToken n) == .reserved "!"
    if negated then expect .ofRest else stepBack
    let first ← command n
    let stages ← stagesFrom n [first]
    let c := match stages with
      | [c] => c
      | stages => .pipeline false stages
    return if negated then .negated c else c
termination_by structural n => n

/-- The stages of a pipeline after those of `back`. -/
def stagesFrom : Nat → List Command → Reading (List Command)
  | 0, _ => fail "Out of range".toList
  | n + 1, back => do
    if (← readToken n) == .operator "|" then
      expect .ofCommand
      let c ← command n
      stagesFrom n (c :: back)
    else
      stepBack
      return back.reverse
termination_by structural n => n

/-- A command that may be followed by redirections. -/
def command : Nat → Reading Command
  | 0 => fail "Out of range".toList
  | n + 1 => do
    let line := (← get).line
    let closed (token : Token) (c : Command) : Reading Command := do
      if (← readToken n) != token then refuseFor token
      expect .ofRest
      let rs ← redirects n []
      return match c, rs with
        | .subshell line c _, rs => .subshell line c rs
        | c, [] => c
        | c, rs => .redirected line c rs
    let body : Reading Command := do return (← list false false n).getD .nothing
    match ← readToken n with
    | .reserved "if" =>
      let c ← conditional n
      closed (.reserved "fi") c
    | .reserved "while" =>
      let test ← body
      if (← readToken n) != .reserved "do" then refuseFor (.reserved "do")
      let inner ← body
      closed (.reserved "done") (.loop true test inner)
    | .reserved "until" =>
      let test ← body
      if (← readToken n) != .reserved "do" then refuseFor (.reserved "do")
      let inner ← body
      closed (.reserved "done") (.loop false test inner)
    | .reserved "for" =>
      let token ← readToken n
      let r ← get
      let name := Word.text? r.word
      if token != .word || r.quoted || !name.any isName then
        fail "Bad for loop variable".toList
      expect .ofCommand
      let words ← if (← readToken n) == .reserved "in" then do
          let words ← wordsFrom n []
          let last := (← get).token
          if last != .lineEnd && last != .operator ";" then refuse
          pure words
        else do
          if (← get).token != .operator ";" then stepBack
          pure [[.quote, .parameter ['@'] .value false [], .quote]]
      expect .ofCommand
      if (← readToken n) != .reserved "do" then refuseFor (.reserved "do")
      let inner ← body
      closed (.reserved "done") (.each line (name.getD []) words inner)
    | .reserved "case" =>
      if (← readToken n) != .word then refuseFor .word
      let word := (← get).word
      expect .ofCommand
      if (← readToken n) != .reserved "in" then refuseFor (.reserved "in")
      let arms ← armsFrom n []
      expect .ofRest
      let rs ← redirects n []
      let c : Command := .choice line word arms
      return if rs.isEmpty then c else .redirected line c rs
    | .operator "(" =>
      let inner ← body
      closed (.operator ")") (.subshell line inner [])
    | .reserved "\x7b" =>
      let inner ← body
      closed (.reserved "\x7d") inner
    | .word | .redirection =>
      stepBack
      let line := (← get).line
      plainFrom n line [] [] [] { aliases := true }
    | _ => refuse
termination_by structural n => n

/-- The test and the branches after `if` or `elif`, up to the end. -/
def conditional : Nat → Reading Command
  | 0 => fail "Out of range".toList
  | n + 1 => do
    let test ← list false false n
    if (← readToken n) != .reserved "then" then refuseFor (.reserved "then")
    let yes ← list false false n
    let no ← match ← readToken n with
      | .reserved "elif" => do
        let c ← conditional n
        pure (some c)
      | .reserved "else" => list false false n
      | _ => do
        stepBack
        pure none
    return .conditional (test.getD .nothing) (yes.getD .nothing) no
termination_by structural n => n

/-- Words, as far as they go, after those of `back`. -/
def wordsFrom : Nat → List Word → Reading (List Word)
  | 0, _ => fail "Out of range".toList
  | n + 1, back => do
    if (← readToken n) == .word then
      let word := (← get).word
      wordsFrom n (word :: back)
    else return back.reverse
termination_by structural n => n

/-- The arms of a choice after those of `back`. -/
def armsFrom : Nat → List (List Word × Command) → Reading (List (List Word × Command))
  | 0, _ => fail "Out of range".toList
  | n + 1, back => do
    expect { passesLines := true, reserved := true }
    if (← readToken n) == .reserved "esac" then return back.reverse
    else
      if (← get).token == .operator "(" then
        let _ ← readToken n
      let patterns ← patternsFrom n []
      if (← get).token != .operator ")" then refuseFor (.operator ")")
      let body ← list false true n
      let back := (patterns, body.getD .nothing) :: back
      expect { passesLines := true, reserved := true }
      let token ← readToken n
      if token == .reserved "esac" then return back.reverse
      else if token != .operator ";;" then refuseFor (.operator ";;")
      else armsFrom n back
termination_by structural n => n

/-- The patterns of an arm, of which the first was read. -/
def patternsFrom : Nat → List Word → Reading (List Word)
  | 0, _ => fail "Out of range".toList
  | n + 1, back => do
    let back := (← get).word :: back
    if (← readToken n) == .operator "|" then
      let _ ← readToken n
      patternsFrom n back
    else return back.reverse
termination_by structural n => n

/-- The rest of a plain command, or the function that it turns out to be; the lists have the last
element first. -/
def plainFrom : Nat → Nat → List Word → List Word → List Redirect → Expectation → Reading Command
  | 0, _, _, _, _, _ => fail "Out of range".toList
  | n + 1, line, assignments, words, back, expectation => do
    expect expectation
    match ← readToken n with
    | .word =>
      let word := (← get).word
      if expectation.aliases && Word.isAssignment word then
        plainFrom n line (word :: assignments) words back expectation
      else plainFrom n line assignments (word :: words) back {}
    | .redirection =>
      let r ← redirect n
      plainFrom n line assignments words (r :: back) expectation
    | token =>
      match token, words, assignments, back with
      | .operator "(", [word], [], [] =>
        if (← readToken n) != .operator ")" then refuseFor (.operator ")")
        match Word.text? word with
        | some name =>
          if !isName name || specialNames.contains (String.ofList name) then
            fail "Bad function name".toList
          expect .ofCommand
          let body ← command n
          return .function name body
        | none => fail "Bad function name".toList
      | _, _, _, _ =>
        stepBack
        return .plain line assignments.reverse words.reverse back.reverse
termination_by structural n => n

end

end Reading

/-! ## Scripts -/

/-- A number of steps that reading a script cannot use up. -/
def Reader.steps (r : Reader) : Nat :=
  let size := (r.sources.map fun s => s.text.length).foldl (· + ·) 0
  let aliases := (r.aliases.map fun a => a.2.length + 2).foldl (· + ·) 0
  64 * (size + 16) * (aliases + 1)

/-- **The next complete command**, up to the end of its line; nothing at the end of the script. -/
def Reader.nextCommand? (r : Reader) : Except GrammarError (Option Command × Reader) :=
  let r := { r with isBack := false, expectation := {}, announced := [] }
  (Reading.list true false r.steps).run r

/-- Holds if no command is left to be read. -/
def Reader.atEnd (r : Reader) : Bool := r.isBack && r.token == .endOfFile

/-- A text as a word that is expanded as a whole, as within double quotes. -/
def Word.ofPrompt (t : Text) : Word :=
  let r := Reader.ofText t 1
  let reading : Reading Token := do
    let c ← Reading.nextJoined
    Reading.wordFrom r.steps (Partial.start .prompt .double) c
  match reading.run r with
  | .ok (_, r) => r.word
  | .error _ => []

end TargetPicker.Shell
