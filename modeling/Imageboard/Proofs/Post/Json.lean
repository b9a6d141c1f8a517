import Imageboard.Post.Json
import Imageboard.Proofs.Json.Record
import Imageboard.Rule.Json

/-! Threads and patterns as JSON, read again.

Whatever a thread, its posts and their files hold, it is read from its JSON as it was, and so is a
pattern. What is null may be left out of a post or a file, and fields of other names may be added
anywhere: the same thread is read. -/
namespace Imageboard
open Json

/-! ### Fields of each kind -/

theorem Address.ofJson?_toJson (a : Address) : ofJson? a.toJson = some a := read?_text a

section
variable {fields : List (String × Json)} {name : String}

theorem nullable_string (s : Option String) (h : fields.lookup name = some (ofOption string s)) :
    nullable fields name asString? = some s :=
  nullable_written (show ∀ s, asString? (string s) = some s from fun _ => rfl) (fun _ => nofun) h

theorem nullable_address (a : Option Address)
    (h : fields.lookup name = some (ofOption Address.toJson a)) :
    nullable fields name Address.ofJson? = some a :=
  nullable_written Address.ofJson?_toJson (fun a => show string a.text ≠ null from nofun) h

theorem nullable_int64 (n : Option Int64) (h : fields.lookup name = some (ofOption ofInt64 n)) :
    nullable fields name asInt64? = some n :=
  nullable_written asInt64?_ofInt64 (fun n => show integer n.toInt ≠ null from nofun) h

theorem required_string (s : String) (h : fields.lookup name = some (string s)) :
    required fields name asString? = some s :=
  required_written (show ∀ s, asString? (string s) = some s from fun _ => rfl) h

theorem required_bool (b : Bool) (h : fields.lookup name = some (bool b)) :
    required fields name asBool? = some b :=
  required_written (show ∀ b, asBool? (bool b) = some b from fun _ => rfl) h

theorem required_uint32 (n : UInt32) (h : fields.lookup name = some (ofUInt32 n)) :
    required fields name asUInt32? = some n :=
  required_written asUInt32?_ofUInt32 h

theorem required_uint64 (n : UInt64) (h : fields.lookup name = some (ofUInt64 n)) :
    required fields name asUInt64? = some n :=
  required_written asUInt64?_ofUInt64 h

end

/-! ### Reading what was written -/

theorem Icon.ofJson?_toJson (i : Icon) : ofJson? i.toJson = some i := by
  rw [ofJson?, toJson, record?]
  rw [Option.bind_eq_bind, Option.bind_some]
  rw [required_written Address.ofJson?_toJson (a := i.address) rfl, required_string i.title rfl]
  rfl

theorem Attachment.ofJson?_toJson (a : Attachment) : ofJson? a.toJson = some a := by
  rw [ofJson?, toJson, record?]
  rw [Option.bind_eq_bind, Option.bind_some]
  rw [nullable_address a.file rfl, nullable_address a.thumbnail rfl, nullable_string a.uploadName rfl,
    required_uint64 a.size rfl, required_uint32 a.width rfl, required_uint32 a.height rfl,
    required_bool a.spoiler rfl]
  rfl

theorem Post.ofJson?_toJson (p : Post) : ofJson? p.toJson = some p := by
  rw [ofJson?, toJson, record?]
  rw [Option.bind_eq_bind, Option.bind_some]
  rw [nullable_string p.number rfl, nullable_string p.parentNumber rfl, nullable_string p.subject rfl,
    nullable_string p.name rfl, nullable_string p.tripcode rfl, nullable_string p.capcode rfl,
    nullable_string p.identifier rfl, nullable_string p.email rfl, required_bool p.sage rfl,
    required_bool p.sticky rfl, required_bool p.cyclical rfl, nullable_string p.comment rfl,
    nullable_int64 p.timestamp rfl,
    required_written (asListOf?_ofList Icon.ofJson?_toJson) (a := p.icons) rfl,
    required_written (asListOf?_ofList Attachment.ofJson?_toJson) (a := p.attachments) rfl]
  rfl

theorem Thread.ofJson?_toJson (t : Thread) : ofJson? t.toJson = some t := by
  rw [ofJson?, toJson, record?]
  rw [Option.bind_eq_bind, Option.bind_some]
  rw [required_written (asListOf?_ofList Post.ofJson?_toJson) (a := t.posts) rfl,
    required_uint32 t.postsCount rfl, required_uint32 t.filesCount rfl]
  rfl

/-! ### Reading records that are the same

What may be left out of a file or a post is named beside it; nothing may be left out of an icon or a
thread. -/

namespace Icon

def Same : Json → Json → Prop := SameRecord fieldNames [] fun _ => Eq

theorem ofJson?_congr (j j' : Json) (h : Same j j') : ofJson? j' = ofJson? j := by
  cases h with
  | refl => rfl
  | object hfields =>
    have hfield {α : Type} (read : Json → Option α) (name : String) (hname : name ∈ fieldNames) :=
      required_congr (hfields name hname) List.not_mem_nil fun _ _ heq => congrArg read heq.symm
    rw [ofJson?, ofJson?, record?, record?, Option.bind_eq_bind, Option.bind_some,
      Option.bind_eq_bind, Option.bind_some, hfield _ "uri" (by decide),
      hfield _ "title" (by decide)]

end Icon

namespace Attachment

def nullableNames : List String := ["file_uri", "thumbnail_uri", "original_name"]

def Same : Json → Json → Prop := SameRecord fieldNames nullableNames fun _ => Eq

theorem ofJson?_congr (j j' : Json) (h : Same j j') : ofJson? j' = ofJson? j := by
  cases h with
  | refl => rfl
  | @object fields fields' hfields =>
    have hfield {α : Type} (read : Json → Option α) (name : String) (hname : name ∈ fieldNames)
        (hnot : name ∉ nullableNames) :=
      required_congr (hfields name hname) hnot fun _ _ heq => congrArg read heq.symm
    have hnull {α : Type} (read : Json → Option α) (name : String) (hname : name ∈ fieldNames) :
        nullable fields' name read = nullable fields name read :=
      nullable_congr (hfields name hname)
    rw [ofJson?, ofJson?, record?, record?, Option.bind_eq_bind, Option.bind_some,
      Option.bind_eq_bind, Option.bind_some, hnull _ "file_uri" (by decide),
      hnull _ "thumbnail_uri" (by decide), hnull _ "original_name" (by decide),
      hfield _ "size" (by decide) (by decide), hfield _ "width" (by decide) (by decide),
      hfield _ "height" (by decide) (by decide), hfield _ "spoiler" (by decide) (by decide)]

end Attachment

namespace Post

def nullableNames : List String :=
  ["post_number", "parent_post_number", "subject", "name", "tripcode", "capcode", "identifier",
   "email", "comment", "timestamp"]

/-- When values of a field are the same to a reader of posts. -/
def SameValue (name : String) : Json → Json → Prop :=
  match name with
  | "icons" => SameItems Icon.Same
  | "attachments" => SameItems Attachment.Same
  | _ => Eq

def Same : Json → Json → Prop := SameRecord fieldNames nullableNames SameValue

theorem ofJson?_congr (j j' : Json) (h : Same j j') : ofJson? j' = ofJson? j := by
  cases h with
  | refl => rfl
  | @object fields fields' hfields =>
    have hicons := required_congr (hfields "icons" (by decide)) (by decide)
      (asListOf?_congr Icon.ofJson?_congr)
    have hattachments := required_congr (hfields "attachments" (by decide)) (by decide)
      (asListOf?_congr Attachment.ofJson?_congr)
    have hflag (name : String) (hname : name ∈ fieldNames) (hnot : name ∉ nullableNames)
        (hsame : SameValue name = Eq) : required fields' name asBool? = required fields name asBool? :=
      required_congr (hfields name hname) hnot
        fun _ _ heq => congrArg asBool? (hsame ▸ heq : _ = _).symm
    have hnull {α : Type} (read : Json → Option α) (name : String) (hname : name ∈ fieldNames)
        (hsame : SameValue name = Eq) : nullable fields' name read = nullable fields name read :=
      nullable_congr (hsame ▸ hfields name hname)
    rw [ofJson?, ofJson?, record?, record?, Option.bind_eq_bind, Option.bind_some,
      Option.bind_eq_bind, Option.bind_some, hnull _ "post_number" (by decide) rfl,
      hnull _ "parent_post_number" (by decide) rfl, hnull _ "subject" (by decide) rfl,
      hnull _ "name" (by decide) rfl, hnull _ "tripcode" (by decide) rfl,
      hnull _ "capcode" (by decide) rfl, hnull _ "identifier" (by decide) rfl,
      hnull _ "email" (by decide) rfl, hflag "sage" (by decide) (by decide) rfl,
      hflag "sticky" (by decide) (by decide) rfl, hflag "cyclical" (by decide) (by decide) rfl,
      hnull _ "comment" (by decide) rfl, hnull _ "timestamp" (by decide) rfl, hicons, hattachments]

end Post

namespace Thread

/-- When values of a field are the same to a reader of threads. -/
def SameValue (name : String) : Json → Json → Prop :=
  match name with
  | "posts" => SameItems Post.Same
  | _ => Eq

def Same : Json → Json → Prop := SameRecord fieldNames [] SameValue

theorem ofJson?_congr (j j' : Json) (h : Same j j') : ofJson? j' = ofJson? j := by
  cases h with
  | refl => rfl
  | @object fields fields' hfields =>
    have hposts := required_congr (hfields "posts" (by decide)) List.not_mem_nil
      (asListOf?_congr Post.ofJson?_congr)
    have hcount (name : String) (hname : name ∈ fieldNames) (hsame : SameValue name = Eq) :
        required fields' name asUInt32? = required fields name asUInt32? :=
      required_congr (hfields name hname) List.not_mem_nil
        fun _ _ heq => congrArg asUInt32? (hsame ▸ heq : _ = _).symm
    rw [ofJson?, ofJson?, record?, record?, Option.bind_eq_bind, Option.bind_some,
      Option.bind_eq_bind, Option.bind_some, hposts, hcount "posts_count" (by decide) rfl,
      hcount "posts_with_files_count" (by decide) rfl]

end Thread

theorem TagPattern.ofJson?_toJson (p : TagPattern) : ofJson? p.toJson = some p := by
  cases p <;> rfl

/-- Threads and patterns are read from their JSON as they were, and a thread, a post or a file is read
alike from all records that are the same to its reader. -/
theorem json_read_back :
    (∀ t : Thread, Thread.ofJson? t.toJson = some t) ∧
      (∀ p : TagPattern, TagPattern.ofJson? p.toJson = some p) ∧
      (∀ j j', Thread.Same j j' → Thread.ofJson? j' = Thread.ofJson? j) ∧
      (∀ j j', Post.Same j j' → Post.ofJson? j' = Post.ofJson? j) ∧
      ∀ j j', Attachment.Same j j' → Attachment.ofJson? j' = Attachment.ofJson? j :=
  ⟨Thread.ofJson?_toJson, TagPattern.ofJson?_toJson, Thread.ofJson?_congr, Post.ofJson?_congr,
    Attachment.ofJson?_congr⟩

/-- A file whose record leaves out what is null, and has a field that files have not. -/
theorem file_without_nulls :
    let fields : List (String × Json) :=
      [("file_uri", null), ("thumbnail_uri", null), ("original_name", null), ("size", integer 9),
        ("width", integer 0), ("height", integer 0), ("spoiler", bool true)]
    let record := edited ["file_uri", "original_name"] [("hash", string "x")] fields
    Attachment.Same (object fields) (object record) ∧
      Attachment.ofJson? (object record) = some { size := 9, spoiler := true } := by
  intro fields record
  have hsame : Attachment.Same (object fields) (object record) :=
    SameRecord.edited (fun _ _ => rfl)
      (List.forall_mem_cons.mpr
        ⟨⟨by decide, rfl⟩, List.forall_mem_singleton.mpr ⟨by decide, rfl⟩⟩)
      (by decide)
  exact ⟨hsame, (json_read_back.2.2.2.2 _ _ hsame).trans rfl⟩

end Imageboard
