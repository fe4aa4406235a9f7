import PrototypeLens.Host
import PrototypeLens.Table

/-!
# Programs

A program model in memory: files, declarations and an index of declarations by qualified name. It
is edited declaration by declaration, may be indexing or cancelled, and may be told to fail single
queries.
-/

namespace PrototypeLens

/-- A query to a program. -/
inductive Query where
  | find (name : String)
  | declaration (id : DeclId)
  | file (id : FileId)
  | declarationsIn (id : FileId)
deriving DecidableEq, Repr

/-- A program model. -/
structure Program where
  /-- The files, by position. -/
  files : List SourceFile := []
  declarations : Table DeclId Declaration := ∅
  /-- The identifier of the next declaration. -/
  nextDeclaration : Nat := 0
  /-- The declaration that a qualified name stands for. -/
  index : Table String DeclId := ∅
  /-- The class path. -/
  classpath : List String := []
  archives : ArchiveStore := {}
  /-- Whether the index is ready. -/
  ready : Bool := true
  /-- Whether the request was cancelled. -/
  cancelled : Bool := false
  /-- Queries that fail although they have an answer; the first entry of a query counts. -/
  faults : List (Query × QueryError) := []

namespace Program

/-! ## Editing -/

def addFile (p : Program) (file : SourceFile) : FileId × Program :=
  (⟨p.files.length⟩, { p with files := p.files ++ [file] })

/-- Replaces a file; tells whether there is one. -/
def setFile (p : Program) (id : FileId) (file : SourceFile) : Bool × Program :=
  (id.raw < p.files.length, { p with files := p.files.set id.raw file })

/-- Lets the qualified name of a declaration stand for it. -/
def indexName (index : Table String DeclId) (id : DeclId) (decl : Declaration) :
    Table String DeclId :=
  match decl.qualifiedName with
  | some name => index.insert name id
  | none => index

/-- Adds a declaration; it takes over its qualified name. -/
def addDeclaration (p : Program) (decl : Declaration) : DeclId × Program :=
  let id : DeclId := ⟨p.nextDeclaration⟩
  (id, { p with
    declarations := p.declarations.insert id decl
    nextDeclaration := p.nextDeclaration + 1
    index := indexName p.index id decl })

/-- Puts a declaration in the place of another. The name of the old one stands for nothing
afterwards, unless the new one has it too. -/
def updateDeclaration (p : Program) (id : DeclId) (decl : Declaration) : Program :=
  let index := match (p.declarations.get? id).bind (·.qualifiedName) with
    -- Without asking whether the name stands for this declaration; compare `removeDeclaration`.
    | some name => p.index.erase name
    | none => p.index
  { p with declarations := p.declarations.insert id decl, index := indexName index id decl }

/-- Removes a declaration, and its name if that stands for it. -/
def removeDeclaration (p : Program) (id : DeclId) : Option Declaration × Program :=
  match p.declarations.get? id with
  | none => (none, p)
  | some decl =>
    let index := match decl.qualifiedName with
      | some name => if p.index.get? name = some id then p.index.erase name else p.index
      | none => p.index
    (some decl, { p with declarations := p.declarations.erase id, index })

/-- Edits a declaration in place; its name has to stay. -/
def modifyDeclaration (p : Program) (id : DeclId) (f : Declaration → Declaration) : Program :=
  match p.declarations.get? id with
  | none => p
  | some decl => { p with declarations := p.declarations.insert id (f decl) }

/-! ## Queries -/

/-- The answer of a query: the state of the program fails it first, then the query itself, then a
fault that was set for it. -/
def answer {α : Type} (p : Program) (query : Query) (result : Except QueryError α) :
    Except QueryError α :=
  if p.cancelled then .error .cancelled
  else if !p.ready then .error .indexNotReady
  else match result with
    | .error e => .error e
    -- A fault shows only where there would be an answer.
    | .ok a => match p.faults.lookup query with
      | some e => .error e
      | none => .ok a

/-- The identifiers of the declarations of a file, ascending. -/
def idsIn (p : Program) (file : FileId) : List DeclId :=
  (p.declarations.keysWhere fun decl => decl.file == file).eraseDups.mergeSort
    fun a b => a.raw ≤ b.raw

theorem answer_eq_ok {α : Type} {p : Program} {query : Query} {result : Except QueryError α}
    {a : α} (h : p.answer query result = .ok a) : result = .ok a := by
  unfold answer at h
  split at h
  · cases h
  split at h
  · cases h
  split at h
  · cases h
  split at h
  · cases h
  · simpa using h

/-- The program as a host. -/
def toHost (p : Program) : Host where
  find name := p.answer (.find name) (.ok (p.index.get? name))
  declaration id := p.answer (.declaration id) <| match p.declarations.get? id with
    | some decl => .ok decl
    | none => .error (.unresolved ("declaration DeclId(" ++ toString id.raw ++ ")"))
  file id := p.answer (.file id) <| match p.files[id.raw]? with
    | some file => .ok file
    | none => .error (.unresolved ("file FileId(" ++ toString id.raw ++ ")"))
  declarationsIn id := p.answer (.declarationsIn id) (.ok (p.idsIn id))
  classpath := p.classpath
  archiveAt := p.archives.archiveAt
  names := p.index.entries.map (·.1)
  ids := p.declarations.entries.map (·.1)
  mem_names h := Table.mem_keys_of_get? (Except.ok.inj (answer_eq_ok h))
  mem_ids {id decl} h := by
    have h := answer_eq_ok h
    split at h
    · rename_i d hd; exact Table.mem_keys_of_get? hd
    · cases h

end Program

end PrototypeLens
