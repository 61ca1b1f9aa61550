import ProviderRouting.Json.Parser
import ProviderRouting.Proofs.Json.Numbers

/-!
# Printed documents are read again

The text of a document, laid out or compact, is read as the same document.  Only doubles may come
back changed: one that is not finite is printed as nothing, and the digits of one that is may be
read as a neighbour.
-/

namespace ProviderRouting.Json

variable {text first second : List Char} {token : Token}

/-! ## Reading on -/

/-- Where the parser stands: the open lists and mappings, and what may come next. -/
abbrev Position := List Frame × Expected

def readFrom (position : Position) (text : List Char) : Option Document :=
  (scanFrom .between text).bind (parseFrom position.1 position.2)

/-- Whatever is read after this text at the second position is read with it at the first. -/
def ReadsAnywhere (text : List Char) (before after : Position) : Prop :=
  ∀ rest document, readFrom after rest = some document →
    readFrom before (text ++ rest) = some document

/-- The same for a text that needs an end. -/
def Reads (text : List Char) (before after : Position) : Prop :=
  ∀ rest document, EndsToken rest → readFrom after rest = some document →
    readFrom before (text ++ rest) = some document

variable {before between after : Position}

theorem ReadsAnywhere.reads (hreads : ReadsAnywhere text before after) :
    Reads text before after :=
  fun rest document _ => hreads rest document

theorem ReadsAnywhere.append (hfirst : ReadsAnywhere first before between)
    (hsecond : ReadsAnywhere second between after) :
    ReadsAnywhere (first ++ second) before after := by
  intro rest document hrest
  rw [List.append_assoc]
  exact hfirst _ _ (hsecond _ _ hrest)

theorem Reads.append (hfirst : Reads first before between)
    (hsecond : ReadsAnywhere second between after) (hends : EndsToken second)
    (hnonempty : second ≠ []) : ReadsAnywhere (first ++ second) before after := by
  intro rest document hrest
  rw [List.append_assoc]
  refine hfirst _ _ ?_ (hsecond _ _ hrest)
  obtain ⟨head, tail, rfl⟩ := List.exists_cons_of_ne_nil hnonempty
  exact hends

theorem parseFrom_cons (stack : List Frame) (expected : Expected) (token : Token)
    (rest : List Token) :
    parseFrom stack expected (token :: rest) =
      (accept stack expected token).bind fun position =>
        parseFrom position.1 position.2 rest :=
  rfl

theorem readsAnywhere_blank (hscans : ScansAnywhere text []) (position : Position) :
    ReadsAnywhere text position position := by
  intro rest document hrest
  rw [readFrom, hscans]
  simpa [readFrom] using hrest

theorem ScansAnywhere.readsAnywhere (hscans : ScansAnywhere text [token])
    (haccept : accept before.1 before.2 token = some after) :
    ReadsAnywhere text before after := by
  intro rest document hrest
  rw [readFrom] at hrest
  rw [readFrom, hscans, Option.bind_map]
  simpa [Function.comp_def, parseFrom_cons, haccept] using hrest

theorem Scans.reads (hscans : Scans text [token])
    (haccept : accept before.1 before.2 token = some after) : Reads text before after := by
  intro rest document hends hrest
  rw [readFrom] at hrest
  rw [readFrom, hscans rest hends, Option.bind_map]
  simpa [Function.comp_def, parseFrom_cons, haccept] using hrest

/-- What begins an item after a comma may also begin the first item. -/
theorem ReadsAnywhere.firstItem {stack : List Frame}
    (hreads : ReadsAnywhere text (.list [] :: stack, .value) after) :
    ReadsAnywhere text (stack, .firstItem) after := by
  intro rest document hrest
  have hlater := hreads rest document hrest
  rw [readFrom, Option.bind_eq_some_iff] at hlater ⊢
  obtain ⟨tokens, htokens, hparse⟩ := hlater
  refine ⟨tokens, htokens, ?_⟩
  cases tokens with
  | nil => cases hparse
  | cons token tokens => cases token <;> first | exact hparse | cases hparse

/-- What begins a member after a comma may also begin the first member. -/
theorem ReadsAnywhere.firstName {stack : List Frame}
    (hreads : ReadsAnywhere text (stack, .name []) after) :
    ReadsAnywhere text (stack, .firstName) after := by
  intro rest document hrest
  have hlater := hreads rest document hrest
  rw [readFrom, Option.bind_eq_some_iff] at hlater ⊢
  obtain ⟨tokens, htokens, hparse⟩ := hlater
  refine ⟨tokens, htokens, ?_⟩
  cases tokens with
  | nil => simp [parseFrom] at hparse
  | cons token tokens => cases token <;> first | exact hparse | cases hparse

/-! ## Documents -/

mutual

/-- The document that is read from the text of a document. -/
def reread : Document → Document
  | .float value => (parse? (floatText value)).getD .null
  | .plain literal => .text literal
  | .unreadable => .null
  | .list items => .list (rereadItems items)
  | .fields members => .fields (rereadMembers members)
  | other => other

def rereadItems : List Document → List Document
  | [] => []
  | item :: rest => reread item :: rereadItems rest

def rereadMembers : List (String × Document) → List (String × Document)
  | [] => []
  | (name, member) :: rest => (name, reread member) :: rereadMembers rest

end

mutual

/-- Every number of the document is in range when it is read again: an integer fits into 64 bits,
and a double that is finite is below two. -/
def IsLegible : Document → Prop
  | .int value => FitsInteger value
  | .float value => value.isFinite = true → Decimal.scaleOf value ≤ 1023
  | .list items => AreLegible items
  | .fields members => MembersLegible members
  | _ => True

def AreLegible : List Document → Prop
  | [] => True
  | item :: rest => IsLegible item ∧ AreLegible rest

def MembersLegible : List (String × Document) → Prop
  | [] => True
  | (_, member) :: rest => IsLegible member ∧ MembersLegible rest

end

theorem rereadMembers_eq_map (members : List (String × Document)) :
    rereadMembers members = members.map fun member => (member.1, reread member.2) := by
  induction members with
  | nil => rfl
  | cons member members ih => rw [rereadMembers, ih, List.map_cons]

theorem membersLegible_iff {members : List (String × Document)} :
    MembersLegible members ↔ ∀ member ∈ members, IsLegible member.2 := by
  induction members with
  | nil => simp [MembersLegible]
  | cons member members ih => rw [MembersLegible, ih, List.forall_mem_cons]

/-- A value of one token is read as that token's document. -/
theorem Scans.reads_scalar {document : Document} (hscans : Scans text [token])
    (hscalar : token.scalar? = some document) (stack : List Frame) :
    Reads text (stack, .value) (stack, .next document) := by
  refine hscans.reads ?_
  cases token <;> first | cases hscalar; rfl | cases hscalar

theorem parse?_of_scans {text : String} {document : Document} (hscans : Scans text.toList [token])
    (hscalar : token.scalar? = some document) : parse? text = some document := by
  have hreads := hscans.reads_scalar hscalar [] [] document (by simp [EndsToken]) rfl
  rwa [List.append_nil] at hreads

/-- The text of a double holds a double, or nothing. -/
theorem scans_floatText {value : Float}
    (hvalue : value.isFinite = true → Decimal.scaleOf value ≤ 1023) :
    (∃ double, Scans (floatText value).toList [.float double]) ∨
      Scans (floatText value).toList [.null] := by
  by_cases hfinite : value.isFinite = true
  · have htext : floatText value = numberStyle.render value := if_pos hfinite
    rw [htext]
    exact .inl (scans_render (hvalue hfinite))
  · have htext : floatText value = "null" := if_neg hfinite
    rw [htext]
    exact .inr scans_null

theorem reads_float {value : Float}
    (hvalue : value.isFinite = true → Decimal.scaleOf value ≤ 1023) (stack : List Frame) :
    Reads (floatText value).toList (stack, .value) (stack, .next (reread (.float value))) := by
  rw [reread]
  rcases scans_floatText hvalue with ⟨double, hscans⟩ | hscans
  · have hscalar : (Token.float double).scalar? = some (.float double) := rfl
    rw [parse?_of_scans hscans hscalar]
    exact hscans.reads_scalar hscalar stack
  · have hscalar : Token.null.scalar? = some .null := rfl
    rw [parse?_of_scans hscans hscalar]
    exact hscans.reads_scalar hscalar stack

theorem scansAnywhere_newLine (level : Nat) : ScansAnywhere (newLine level).toList [] := by
  refine scansAnywhere_blanks ?_
  simp [newLine]

theorem endsToken_newLine (level : Nat) (rest : List Char) :
    EndsToken ((newLine level).toList ++ rest) := by
  rintro character hcharacter
  obtain rfl : character = '\n' := by simpa [newLine, eq_comm] using hcharacter
  decide

theorem readsAnywhere_punctuation {character : Char}
    (htoken : punctuation? character = some token)
    (haccept : accept before.1 before.2 token = some after) :
    ReadsAnywhere [character] before after :=
  (scansAnywhere_punctuation htoken).readsAnywhere haccept

/-- A line that only holds what closes a list or a mapping. -/
theorem readsAnywhere_closing {character : Char} (htoken : punctuation? character = some token)
    (haccept : accept before.1 before.2 token = some after) (level : Nat) :
    ReadsAnywhere ((newLine level).toList ++ [character]) before after :=
  (readsAnywhere_blank (scansAnywhere_newLine level) before).append
    (readsAnywhere_punctuation htoken haccept)

theorem endsToken_punctuation {character : Char} (htoken : punctuation? character = some token)
    (rest : List Char) : EndsToken (character :: rest) := by
  intro head hhead
  obtain rfl := Option.some.inj hhead
  unfold punctuation? at htoken
  split at htoken
  all_goals first | decide | cases htoken

/-- What follows a comma is read on after the document before it. -/
theorem Reads.comma {stack : List Frame} {document : Document}
    (hdocument : Reads first before (stack, .next document))
    (haccept : afterValue stack document .comma = some between)
    (hrest : ReadsAnywhere second between after) :
    ReadsAnywhere (first ++ ',' :: second) before after := by
  have hcomma : ReadsAnywhere [','] (stack, .next document) between :=
    readsAnywhere_punctuation rfl haccept
  exact hdocument.append (hcomma.append hrest) (endsToken_punctuation rfl second)
    (List.cons_ne_nil _ _)

/-- Members whose names could all be read. -/
def named (members : List (String × Document)) : List Member :=
  members.map fun member => (some member.1, member.2)

theorem mapM_named (members : List (String × Document)) :
    (named members).mapM
      (fun member : Member => member.1.map fun name => (name, member.2)) = some members := by
  induction members with
  | nil => rfl
  | cons member members ih =>
      rw [named] at ih ⊢
      simp [List.mapM_cons, ih]

theorem closeMembers_named (members : List (String × Document)) :
    closeMembers (named members) = .fields members.reverse := by
  unfold closeMembers
  rw [named, ← List.map_reverse, ← named, mapM_named]

/-- The name of a member and the colon after it. -/
theorem readsAnywhere_name (name : String) (members : List Member) (stack : List Frame) :
    ReadsAnywhere ((quote name).toList ++ [':']) (stack, .name members)
      (.fields members (some name) :: stack, .value) := by
  have hname : ReadsAnywhere (quote name).toList (stack, .name members)
      (stack, .colon members (some name)) :=
    (scansAnywhere_quote name).readsAnywhere rfl
  have hcolon : ReadsAnywhere [':'] (stack, .colon members (some name))
      (.fields members (some name) :: stack, .value) :=
    readsAnywhere_punctuation rfl rfl
  exact hname.append hcolon

/-! ### Laid-out text -/

/-- In laid-out text, a blank stands between the colon and the document. -/
theorem readsAnywhere_laidOutName (name : String) (members : List Member) (stack : List Frame) :
    ReadsAnywhere ((quote name).toList ++ [':', ' ']) (stack, .name members)
      (.fields members (some name) :: stack, .value) := by
  have hblank : ReadsAnywhere [' '] (.fields members (some name) :: stack, .value)
      (.fields members (some name) :: stack, .value) :=
    readsAnywhere_blank (scansAnywhere_blanks (by simp)) _
  have hall := (readsAnywhere_name name members stack).append hblank
  simpa only [List.append_assoc, List.singleton_append] using hall

mutual

/-- At every level, the laid-out text of a document is read as the document. -/
theorem reads_laidOut (document : Document) (hlegible : IsLegible document) (level : Nat)
    (stack : List Frame) :
    Reads (laidOut level document).toList (stack, .value) (stack, .next (reread document)) := by
  match document with
  | .null => exact scans_null.reads_scalar rfl stack
  | .bool value => exact (scans_bool value).reads_scalar rfl stack
  | .int value => exact (scans_int hlegible).reads_scalar rfl stack
  | .float value => exact reads_float hlegible stack
  | .text value => exact (scansAnywhere_quote value).scans.reads_scalar rfl stack
  | .plain literal => exact (scansAnywhere_quote literal).scans.reads_scalar rfl stack
  | .unreadable => exact scans_null.reads_scalar rfl stack
  | .list [] =>
      have hopen : ReadsAnywhere ['['] (stack, .value) (stack, .firstItem) :=
        readsAnywhere_punctuation rfl rfl
      have hclose : ReadsAnywhere [']'] (stack, .firstItem) (stack, .next (.list [])) :=
        readsAnywhere_punctuation rfl rfl
      have hall := (hopen.append hclose).reads
      simpa [laidOut, reread, rereadItems] using hall
  | .list (item :: items) =>
      have hopen : ReadsAnywhere ['['] (stack, .value) (stack, .firstItem) :=
        readsAnywhere_punctuation rfl rfl
      have hitems := reads_laidOutItems (item :: items) (List.cons_ne_nil _ _) hlegible (level + 1)
        level [] stack
      -- the first item is read as if it stood after a comma
      have hall := (hopen.append hitems.firstItem).reads
      simpa [laidOut, reread] using hall
  | .fields [] =>
      have hopen : ReadsAnywhere ['\x7b'] (stack, .value) (stack, .firstName) :=
        readsAnywhere_punctuation rfl rfl
      have hclose : ReadsAnywhere ['\x7d'] (stack, .firstName) (stack, .next (.fields [])) :=
        readsAnywhere_punctuation rfl rfl
      have hall := (hopen.append hclose).reads
      simpa [laidOut, reread, rereadMembers] using hall
  | .fields (member :: members) =>
      have hopen : ReadsAnywhere ['\x7b'] (stack, .value) (stack, .firstName) :=
        readsAnywhere_punctuation rfl rfl
      have hmembers := reads_laidOutMembers (member :: members) (List.cons_ne_nil _ _) hlegible
        (level + 1) level [] stack
      have hall := (hopen.append hmembers.firstName).reads
      simpa [laidOut, reread] using hall

/-- From the first item on that is not read yet, the rest of a list is read. -/
theorem reads_laidOutItems (items : List Document) (hnonempty : items ≠ [])
    (hlegible : AreLegible items) (level outer : Nat) (done : List Document)
    (stack : List Frame) :
    ReadsAnywhere ((laidOutItems level items).toList ++ ((newLine outer).toList ++ [']']))
      (.list done :: stack, .value) (stack, .next (.list (done.reverse ++ rereadItems items))) := by
  have hline := readsAnywhere_blank (scansAnywhere_newLine level) (.list done :: stack, .value)
  match items with
  | [item] =>
      have hitem := reads_laidOut item hlegible.1 level (.list done :: stack)
      have hclose : ReadsAnywhere ((newLine outer).toList ++ [']'])
          (.list done :: stack, .next (reread item))
          (stack, .next (.list (reread item :: done).reverse)) :=
        readsAnywhere_closing rfl rfl outer
      have hall := hline.append (hitem.append hclose (endsToken_newLine outer _) (by simp))
      simpa [laidOutItems, rereadItems] using hall
  | item :: next :: rest =>
      have hitem := reads_laidOut item hlegible.1 level (.list done :: stack)
      have hrest := reads_laidOutItems (next :: rest) (List.cons_ne_nil _ _) hlegible.2 level outer
        (reread item :: done) stack
      have hall := hline.append (hitem.comma rfl hrest)
      simpa [laidOutItems, rereadItems] using hall

/-- From the first member on that is not read yet, the rest of a mapping is read. -/
theorem reads_laidOutMembers (members : List (String × Document)) (hnonempty : members ≠ [])
    (hlegible : MembersLegible members) (level outer : Nat) (done : List (String × Document))
    (stack : List Frame) :
    ReadsAnywhere
      ((laidOutMembers level members).toList ++ ((newLine outer).toList ++ ['\x7d']))
      (stack, .name (named done))
      (stack, .next (.fields (done.reverse ++ rereadMembers members))) := by
  have hline := readsAnywhere_blank (scansAnywhere_newLine level) (stack, .name (named done))
  match members with
  | [(name, document)] =>
      have hname := readsAnywhere_laidOutName name (named done) stack
      have hmember := reads_laidOut document hlegible.1 level
        (.fields (named done) (some name) :: stack)
      have hclose : ReadsAnywhere ((newLine outer).toList ++ ['\x7d'])
          (.fields (named done) (some name) :: stack, .next (reread document))
          (stack, .next (closeMembers (named ((name, reread document) :: done)))) :=
        readsAnywhere_closing rfl rfl outer
      have hall := hline.append (hname.append
        (hmember.append hclose (endsToken_newLine outer _) (by simp)))
      rw [closeMembers_named] at hall
      simpa [laidOutMembers, rereadMembers] using hall
  | (name, document) :: next :: rest =>
      have hname := readsAnywhere_laidOutName name (named done) stack
      have hmember := reads_laidOut document hlegible.1 level
        (.fields (named done) (some name) :: stack)
      have hrest := reads_laidOutMembers (next :: rest) (List.cons_ne_nil _ _) hlegible.2 level
        outer ((name, reread document) :: done) stack
      have hall := hline.append (hname.append (hmember.comma rfl hrest))
      simpa [laidOutMembers, rereadMembers] using hall

end

/-- The laid-out text of a document is read as the document. -/
theorem parse?_pretty {document : Document} (hlegible : IsLegible document) :
    parse? (pretty document) = some (reread document) := by
  have hreads := reads_laidOut document hlegible 0 [] [] (reread document) (by simp [EndsToken]) rfl
  rwa [List.append_nil] at hreads

/-! ### Compact text -/

mutual

/-- The compact text of a document is read as the document. -/
theorem reads_compact (document : Document) (hlegible : IsLegible document)
    (stack : List Frame) :
    Reads (compact document).toList (stack, .value) (stack, .next (reread document)) := by
  match document with
  -- a document without parts has the same text when it is laid out
  | .null | .bool _ | .int _ | .float _ | .text _ | .plain _ | .unreadable =>
      exact reads_laidOut _ hlegible 0 stack
  | .list [] => exact reads_laidOut (.list []) hlegible 0 stack
  | .fields [] => exact reads_laidOut (.fields []) hlegible 0 stack
  | .list (item :: items) =>
      have hopen : ReadsAnywhere ['['] (stack, .value) (stack, .firstItem) :=
        readsAnywhere_punctuation rfl rfl
      have hitems := reads_compactItems (item :: items) (List.cons_ne_nil _ _) hlegible [] stack
      have hall := (hopen.append hitems.firstItem).reads
      simpa [compact, reread] using hall
  | .fields (member :: members) =>
      have hopen : ReadsAnywhere ['\x7b'] (stack, .value) (stack, .firstName) :=
        readsAnywhere_punctuation rfl rfl
      have hmembers :=
        reads_compactMembers (member :: members) (List.cons_ne_nil _ _) hlegible [] stack
      have hall := (hopen.append hmembers.firstName).reads
      simpa [compact, reread] using hall

theorem reads_compactItems (items : List Document) (hnonempty : items ≠ [])
    (hlegible : AreLegible items) (done : List Document) (stack : List Frame) :
    ReadsAnywhere ((compactItems items).toList ++ [']']) (.list done :: stack, .value)
      (stack, .next (.list (done.reverse ++ rereadItems items))) := by
  match items with
  | [item] =>
      have hitem := reads_compact item hlegible.1 (.list done :: stack)
      have hclose : ReadsAnywhere [']'] (.list done :: stack, .next (reread item))
          (stack, .next (.list (reread item :: done).reverse)) :=
        readsAnywhere_punctuation rfl rfl
      have hall := hitem.append hclose (endsToken_punctuation rfl _) (List.cons_ne_nil _ _)
      simpa [compactItems, rereadItems] using hall
  | item :: next :: rest =>
      have hitem := reads_compact item hlegible.1 (.list done :: stack)
      have hrest := reads_compactItems (next :: rest) (List.cons_ne_nil _ _) hlegible.2
        (reread item :: done) stack
      have hall := hitem.comma rfl hrest
      simpa [compactItems, rereadItems] using hall

theorem reads_compactMembers (members : List (String × Document)) (hnonempty : members ≠ [])
    (hlegible : MembersLegible members) (done : List (String × Document)) (stack : List Frame) :
    ReadsAnywhere ((compactMembers members).toList ++ ['\x7d']) (stack, .name (named done))
      (stack, .next (.fields (done.reverse ++ rereadMembers members))) := by
  match members with
  | [(name, document)] =>
      have hname := readsAnywhere_name name (named done) stack
      have hmember := reads_compact document hlegible.1 (.fields (named done) (some name) :: stack)
      have hclose : ReadsAnywhere ['\x7d']
          (.fields (named done) (some name) :: stack, .next (reread document))
          (stack, .next (closeMembers (named ((name, reread document) :: done)))) :=
        readsAnywhere_punctuation rfl rfl
      have hall := hname.append
        (hmember.append hclose (endsToken_punctuation rfl _) (List.cons_ne_nil _ _))
      rw [closeMembers_named] at hall
      simpa [compactMembers, rereadMembers] using hall
  | (name, document) :: next :: rest =>
      have hname := readsAnywhere_name name (named done) stack
      have hmember := reads_compact document hlegible.1 (.fields (named done) (some name) :: stack)
      have hrest := reads_compactMembers (next :: rest) (List.cons_ne_nil _ _) hlegible.2
        ((name, reread document) :: done) stack
      have hall := hname.append (hmember.comma rfl hrest)
      simpa [compactMembers, rereadMembers] using hall

end

/-- A line of a report or a script holds the document that was printed on it. -/
theorem parse?_compact {document : Document} (hlegible : IsLegible document) :
    parse? (compact document) = some (reread document) := by
  have hreads := reads_compact document hlegible [] [] (reread document) (by simp [EndsToken]) rfl
  rwa [List.append_nil] at hreads

end ProviderRouting.Json
