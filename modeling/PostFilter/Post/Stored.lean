import PostFilter.Json.Decode
import PostFilter.Json.Reader
import PostFilter.Post.Basic

/-!
# Posts — stored form

A post is stored as a JSON object. `Post.store` writes it, `Post.load?` reads it back and refuses
what is not the document of a post.
-/

namespace PostFilter

namespace Json

/-! ### Writing -/

def ofAttachment (a : Attachment) : Json :=
  ofFields [("name", ofString a.name), ("weight_kb", ofOption ofUInt64 a.weight),
    ("width", ofOption (fun n => ofNat n.toNat) a.width),
    ("height", ofOption (fun n => ofNat n.toNat) a.height), ("id", ofString a.id),
    ("signature", ofOption ofUInt64 a.signature)]

def ofVideo (v : Video) : Json :=
  ofFields [("host", ofString v.host), ("id", ofString v.id),
    ("title", ofOption ofString v.title), ("author", ofOption ofString v.author),
    ("views", ofOption ofUInt64 v.views)]

def ofPost (p : Post) : Json :=
  ofFields [("number", ofUInt64 p.number), ("position", ofUInt64 p.position),
    ("original_post", .bool p.isOpening), ("sage", .bool p.sage), ("text", ofString p.text),
    ("html", ofString p.html), ("subject", ofString p.subject), ("name", ofString p.name),
    ("signature", ofOption ofString p.signature),
    ("attachments", .array (p.attachments.map ofAttachment)),
    ("videos", .array (p.videos.map ofVideo))]

/-! ### Reading -/

def decodeAttachment : Decoder Attachment :=
  decodeRecord ["name", "weight_kb", "width", "height", "id", "signature"] fun levels values =>
    match values with
    | [name, weight, width, height, id, signature] => do
      return ⟨← required decodeString levels name, ← optional decodeUInt64 levels weight,
        ← optional decodeUInt32 levels width, ← optional decodeUInt32 levels height,
        ← required decodeString levels id, ← optional decodeUInt64 levels signature⟩
    | _ => none

def decodeVideo : Decoder Video :=
  decodeRecord ["host", "id", "title", "author", "views"] fun levels values =>
    match values with
    | [host, id, title, author, views] => do
      return ⟨← required decodeString levels host, ← required decodeString levels id,
        ← optional decodeString levels title, ← optional decodeString levels author,
        ← optional decodeUInt64 levels views⟩
    | _ => none

def decodePost : Decoder Post :=
  decodeRecord ["number", "position", "original_post", "sage", "text", "html", "subject", "name",
      "signature", "attachments", "videos"] fun levels values =>
    match values with
    | [ordinal, position, isOpening, sage, text, html, subject, name, signature, attachments,
        videos] => do
      return ⟨← required decodeUInt64 levels ordinal, ← required decodeUInt64 levels position,
        ← required decodeBool levels isOpening, ← required decodeBool levels sage,
        ← required decodeString levels text, ← required decodeString levels html,
        ← required decodeString levels subject, ← required decodeString levels name,
        ← optional decodeString levels signature,
        ← required (decodeList decodeAttachment) levels attachments,
        ← required (decodeList decodeVideo) levels videos⟩
    | _ => none

end Json

/-- The document of a post. -/
def Post.store (p : Post) : String := (Json.ofPost p).text

/-- The post that a document describes; nothing if it is not the document of a post. -/
def Post.load? (text : String) : Option Post :=
  (Json.parse? text).bind (Json.decodePost Json.nestLimit)

end PostFilter
