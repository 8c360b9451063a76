import RequestScope.Json.Literal

/-!
# Commas, colons and brackets

The steps between the parts of lists and objects. Each step says whether another part follows and
leaves the cursor at it; the closing bracket is taken by a step of its own, so that a reader that
stops early still finds out whether the text goes on as it should.
-/

namespace RequestScope.Json.Cursor

/-- Whether another item follows, and where. The closing bracket is not taken. -/
def nextItem (first : Bool) (c : Cursor) : Except Fault (Bool × Cursor) :=
  let c := c.skipSpace
  match c.peek? with
  | none => .error (c.ahead .endOfList)
  | some b =>
    if b == 0x5d then .ok (false, c)
    else if first then .ok (true, c)
    else if b == 0x2c then
      let c := c.next.skipSpace
      match c.peek? with
      | none => .error (c.ahead .endOfValue)
      | some b => if b == 0x5d then .error (c.ahead .trailingComma) else .ok (true, c)
    else .error (c.ahead .expectedCommaOrBracket)

/-- Takes the closing bracket of a list whose reader wants no more items. A refusal says what is
wrong with the octet ahead of the place reached. -/
def closeList (c : Cursor) : Except (Malformed × Cursor) Cursor :=
  let c := c.skipSpace
  match c.peek? with
  | none => .error (.endOfList, c)
  | some b =>
    if b == 0x5d then .ok c.next
    else if b == 0x2c then
      let c := c.next.skipSpace
      .error (if c.peek? == some 0x5d then .trailingComma else .trailingCharacters, c)
    else .error (.trailingCharacters, c)

/-- Whether another member follows, and where its name begins. The closing brace is not taken. -/
def nextMember (first : Bool) (c : Cursor) : Except Fault (Bool × Cursor) :=
  let c := c.skipSpace
  match c.peek? with
  | none => .error (c.ahead .endOfObject)
  | some b =>
    if b == 0x7d then .ok (false, c)
    else if first then if b == 0x22 then .ok (true, c) else .error (c.ahead .nameNotString)
    else if b == 0x2c then
      let c := c.next.skipSpace
      match c.peek? with
      | none => .error (c.ahead .endOfValue)
      | some b =>
        if b == 0x22 then .ok (true, c)
        else if b == 0x7d then .error (c.ahead .trailingComma)
        else .error (c.ahead .nameNotString)
    else .error (c.ahead .expectedCommaOrBrace)

/-- Takes the closing brace of an object whose reader wants no more members. A refusal says what is
wrong with the octet ahead of the place reached. -/
def closeObject (c : Cursor) : Except (Malformed × Cursor) Cursor :=
  let c := c.skipSpace
  match c.peek? with
  | none => .error (.endOfObject, c)
  | some b =>
    if b == 0x7d then .ok c.next
    else .error (if b == 0x2c then .trailingComma else .trailingCharacters, c)

def colon (c : Cursor) : Except Fault Cursor :=
  let c := c.skipSpace
  match c.peek? with
  | none => .error (c.ahead .endOfObject)
  | some b => if b == 0x3a then .ok c.next else .error (c.ahead .expectedColon)

/-- Takes the white space behind a whole value; nothing else may follow. -/
def finished (c : Cursor) : Except Fault Unit :=
  let c := c.skipSpace
  if c.rest.isEmpty then .ok () else .error (c.ahead .trailingCharacters)

end RequestScope.Json.Cursor
