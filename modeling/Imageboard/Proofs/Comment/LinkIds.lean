import Imageboard.Proofs.Comment.References
import Imageboard.Proofs.Markup.Edited
import Mathlib.Data.List.Forall2
import Mathlib.Data.List.Induction

/-! The `id` attributes that are removed from a comment.

An anchor with an `id` is looked for as text: from `<a ` to the next `id="` on the line, and on to a
`>`. Of what is found one `id="…"` is left out and nothing else. Where that is an attribute of its own
of an `a` tag, the tag loses it and every other token stays as it is: `withoutIds_tokens`. It may as
well stand in another tag, or in none. -/
namespace Imageboard

namespace Token

/-- `u` is `t`, or the same `a` tag without its `id`. -/
inductive LosesId : Token → Token → Prop
  | same (t : Token) : LosesId t t
  | erased (attributes : Attributes) (selfClosing : Bool) :
      LosesId (openTag "a" attributes selfClosing) (openTag "a" (attributes.erase "id") selfClosing)

theorem LosesId.trans {t u v : Token} (htu : LosesId t u) (huv : LosesId u v) : LosesId t v := by
  cases htu with
  | same => exact huv
  | erased attributes selfClosing =>
    cases huv with
    | same => exact .erased attributes selfClosing
    | erased =>
      rw [Attributes.erase_erase]
      exact .erased attributes selfClosing

theorem LosesId.eq_or_anchor {t u : Token} (h : LosesId t u) : t = u ∨ t.name? = some "a" := by
  cases h with
  | same => exact .inl rfl
  | erased => exact .inr rfl

theorem loses_trans {ts us vs : List Token} (htu : List.Forall₂ LosesId ts us)
    (huv : List.Forall₂ LosesId us vs) : List.Forall₂ LosesId ts vs := by
  induction htu generalizing vs with
  | nil => exact huv
  | cons htu _ ih =>
    cases huv with
    | cons huv hrest => exact .cons (htu.trans huv) (ih hrest)

end Token

namespace Comment
open Lexeme Markup Text

/-! ### Anchors with an `id` -/

/-- An `id` attribute with the space in front of it, if there is one. -/
def IsId (id value : List Char) : Prop :=
  '"' ∉ value ∧ ∃ space, (space = [] ∨ space = [' ']) ∧
    id = space ++ ("id".toList ++ '=' :: '"' :: (value ++ ['"']))

theorem IsId.length_pos {id value : List Char} (h : IsId id value) : 0 < id.length := by
  obtain ⟨-, space, -, rfl⟩ := h
  simp only [List.length_append, List.length_cons]
  omega

/-- An anchor with an `id`, up to the first `>` behind the `id`. -/
structure IdAnchor where
  before : List Char
  id : List Char
  behind : List Char
  deriving DecidableEq

theorem afterId?_eq {s rest : List Char} (h : afterId? s = some rest) :
    ∃ id value, s = id ++ rest ∧ IsId id value := by
  have hid {space quoted : List Char} (hspace : space = [] ∨ space = [' '])
      (hs : s = space ++ ("id=\"".toList ++ quoted)) (h : past? "\"" quoted = some rest) :
      ∃ id value, s = id ++ rest ∧ IsId id value := by
    obtain ⟨⟨value, rest'⟩, hsplit, rfl⟩ := Option.map_eq_some_iff.mp h
    refine ⟨_, value, ?_, not_mem_of_splitFirst? hsplit, space, hspace, rfl⟩
    rw [hs, splitFirst?_eq hsplit]
    simp
  unfold afterId? at h
  split at h
  · rename_i quoted hquoted
    exact hid (.inr rfl) (by rw [strip?_eq hquoted]; rfl) h
  · obtain ⟨quoted, hquoted, h⟩ := Option.bind_eq_some_iff.mp h
    exact hid (.inl rfl) (by rw [strip?_eq hquoted]; rfl) h

namespace IdAnchor

def text (a : IdAnchor) : List Char :=
  "<a ".toList ++ (a.before ++ (a.id ++ (a.behind ++ ['>'])))

/-- The anchor without the `id`. -/
def plain (a : IdAnchor) : List Char := "<a ".toList ++ (a.before ++ (a.behind ++ ['>']))

/-- The anchor that begins here, and what follows it. -/
def read? (s : List Char) : Option (IdAnchor × List Char) := do
  let body ← strip? "<a ".toList s
  let line := body.takeWhile (· != '\n')
  let (before, rest) ← firstPlace? afterId? line
  let (behind, rest') ← splitFirst? ['>'] rest
  some (⟨before, Lexeme.before (line.drop before.length) rest, behind⟩,
    rest' ++ body.dropWhile (· != '\n'))

theorem anchorWithId?_eq :
    anchorWithId? = fun s => (read? s).map fun (a, rest) => (a.plain, rest) := by
  funext s
  unfold anchorWithId? onLine read?
  cases strip? "<a ".toList s with
  | none => rfl
  | some body =>
    simp only [Option.bind_eq_bind, Option.bind_some]
    cases firstPlace? afterId? (body.takeWhile (· != '\n')) with
    | none => rfl
    | some found =>
      obtain ⟨before, rest⟩ := found
      simp only [Option.bind_some]
      cases splitFirst? ['>'] rest with
      | none => rfl
      | some parts => simp [plain]

theorem read?_eq {s rest : List Char} {a : IdAnchor} (h : read? s = some (a, rest)) :
    s = a.text ++ rest ∧ ∃ value, IsId a.id value := by
  obtain ⟨body, hbody, h⟩ := Option.bind_eq_some_iff.mp h
  obtain ⟨⟨before, behindId⟩, hplace, h⟩ := Option.bind_eq_some_iff.mp h
  obtain ⟨⟨behind, rest'⟩, hsplit, h⟩ := Option.bind_eq_some_iff.mp h
  obtain ⟨rfl, rfl⟩ := Prod.mk.inj (Option.some.inj h)
  obtain ⟨attached, hline, hafter⟩ := firstPlace?_eq hplace
  obtain ⟨id, value, rfl, hid⟩ := afterId?_eq hafter
  have hsplit' := splitFirst?_eq hsplit
  have hwhole := List.takeWhile_append_dropWhile (p := (· != '\n')) (l := body)
  generalize body.dropWhile (· != '\n') = later at hwhole ⊢
  rw [hline, List.drop_left, Markup.before_written]
  refine ⟨?_, value, hid⟩
  rw [strip?_eq hbody, ← hwhole, hline, hsplit', text]
  simp

end IdAnchor

/-! ### The tag that an `id` belongs to -/

/-- What a tag `a` has for attributes and where it ends, from the space behind its name on. -/
theorem readOpenTag_anchor (o : Options) (s : List Char) :
    readOpenTag o ('a' :: ' ' :: s) =
      (.openTag "a" (readAttributes o .empty s).1.attributes
        (readAttributes o .empty s).1.selfClosing, (readAttributes o .empty s).2) := by
  have hname : ('a' :: ' ' :: s).takeWhile isNameCharacter = ['a'] := rfl
  have hbehind : ('a' :: ' ' :: s).dropWhile isNameCharacter = ' ' :: s := rfl
  unfold readOpenTag
  rw [hname, hbehind, readAttributes_space rfl]
  rfl

theorem readAttributes_id {id value : List Char} (hid : IsId id value) (o : Options)
    (earlier : Attributes) (s : List Char) :
    readAttributes o earlier (id ++ s) =
      readAttributes o (earlier.insert "id" (attributeValue o value)) s := by
  obtain ⟨hvalue, space, hspace, rfl⟩ := hid
  have hkey : IsKey "id".toList := ⟨nofun, List.all_eq_true.mp rfl⟩
  have hquoted : readAttributes o earlier
      (("id".toList ++ '=' :: '"' :: (value ++ ['"'])) ++ s) =
        readAttributes o (earlier.insert "id" (attributeValue o value)) s := by
    rw [List.append_assoc, List.cons_append, List.cons_append, List.append_assoc]
    exact readAttributes_quoted hkey (.inl rfl) hvalue s
  obtain rfl | rfl := hspace
  · exact hquoted
  · rw [List.append_assoc, List.singleton_append, readAttributes_space rfl, hquoted]

/-- `id` is an attribute of the tag, behind others that end in front of it, and the tag has no other
`id`. -/
structure BelongsTo (tag : Lexeme) (before id behind : List Char) : Prop where
  openTag : ∃ name attributes selfClosing, tag.token = some (.openTag name attributes selfClosing)
  spelling : tag.spelling = "<a ".toList ++ (before ++ (id ++ behind))
  run : AttributeRun before
  one : (readAttributes {} .empty (before ++ behind)).1.attributes.contains "id" = false

/-- What is read of the tag with the `id` and without it. -/
theorem readAttributes_withoutId {before id value behind page : List Char} {tag : Lexeme}
    (hid : IsId id value) (hown : BelongsTo tag before id behind)
    (hend : (readAttributes {} .empty (before ++ (id ++ (behind ++ page)))).2 = page) :
    readAttributes {} .empty (before ++ (behind ++ page)) =
      (⟨(readAttributes {} .empty (before ++ (id ++ (behind ++ page)))).1.attributes.erase "id",
        (readAttributes {} .empty (before ++ (id ++ (behind ++ page)))).1.selfClosing⟩, page) := by
  obtain ⟨read, hread⟩ := hown.run.read {} .empty
  have hone := hown.one
  rw [hread] at hone hend ⊢
  rw [hread]
  rw [readAttributes_id hid] at hend ⊢
  have hnew : read.contains "id" = false := by
    by_contra hcontains
    rw [contains_readAttributes (by simpa using hcontains)] at hone
    cases hone
  have herase := Attributes.erase_insert_self hnew (attributeValue {} value)
  have hrest : (readAttributes {} read (behind ++ page)).2 = page :=
    (readAttributes_rest _ _ _).trans hend
  -- Read with the page behind it, the tag has no other `id` either.
  have halone : readAttributes {} read (behind ++ []) =
      ((readAttributes {} read (behind ++ page)).1, [] ++ []) :=
    readAttributes_of_append (Thins.nil page) (Prod.ext rfl hrest)
  rw [List.append_nil] at halone
  have hlacks : (readAttributes {} ((read.insert "id" (attributeValue {} value)).erase "id")
      (behind ++ page)).1.attributes.contains "id" = false := by
    rw [herase, ← hone, halone]
  have hless := readAttributes_erase hlacks
  rwa [herase, hend] at hless

/-- A tag has no two `id` attributes that are each its only one. -/
theorem BelongsTo.unique {before id value between id' behind behind' : List Char} {tag : Lexeme}
    (hid : IsId id value) (hown : BelongsTo tag before id behind)
    (hown' : BelongsTo tag (before ++ (id ++ between)) id' behind') : False := by
  obtain ⟨read, hread⟩ := hown.run.read {} .empty
  have hone := hown'.one
  rw [List.append_assoc, List.append_assoc, hread, readAttributes_id hid,
    contains_readAttributes (Attributes.contains_insert _ _ _)] at hone
  cases hone

theorem anchor_opensNoRawText (attributes : Attributes) (selfClosing : Bool) :
    (Token.openTag "a" attributes selfClosing).opensRawText {} = false := by
  have hraw : Options.isRawText {} "a" = false := by decide +kernel
  rw [Token.opensRawText, hraw, Bool.and_false]

/-- Without an `id`, one tag of the page is another, and the lexemes around it are the same. -/
theorem lexemes_withoutId {left id value rest before behind : List Char}
    {earlier later : List Lexeme} {tag : Lexeme} (hid : IsId id value)
    (h : lexemes {} (left ++ (id ++ rest)) = earlier ++ tag :: later)
    (hleft : left = earlier.flatMap spelling ++ ("<a ".toList ++ before))
    (hown : BelongsTo tag before id behind) :
    ∃ less attributes selfClosing, lexemes {} (left ++ rest) = earlier ++ less :: later ∧
      tag.token = some (.openTag "a" attributes selfClosing) ∧
      less.token = some (.openTag "a" (attributes.erase "id") selfClosing) := by
  obtain ⟨name, attributes, selfClosing, htoken⟩ := hown.openTag
  obtain ⟨hpage, htail⟩ := lexemes_from_tag h htoken
  have hspelling : tag.spelling = '<' :: 'a' :: ' ' :: (before ++ (id ++ behind)) := hown.spelling
  have hrest : rest = behind ++ later.flatMap spelling := by
    rw [hown.spelling, hleft] at hpage
    simpa only [List.append_assoc, List.append_cancel_left_eq] using hpage
  rw [hspelling, List.cons_append] at htail
  have hcut : lexemes {} ('<' :: ('a' :: ' ' :: (before ++ (id ++ behind)) ++
      later.flatMap spelling)) = tag :: ([] ++ later) := htail
  obtain ⟨htag, hend⟩ := lexemes_cons_cut hcut (by rw [hspelling]; simp)
  rw [List.cons_append, first_openTag rfl, List.cons_append, readOpenTag_anchor] at htag hend
  simp only [List.append_assoc, List.flatMap_nil, List.nil_append] at htag hend
  have hanchor := congrArg Lexeme.token htag
  have hread : readOpenTag {} ('a' :: ' ' :: (before ++ behind) ++ later.flatMap spelling) = _ :=
    readOpenTag_anchor {} (before ++ behind ++ later.flatMap spelling)
  rw [List.append_assoc, readAttributes_withoutId hid hown hend] at hread
  have hless : ∀ d ∈ ' ' :: (before ++ behind), d ∈ ' ' :: (before ++ (id ++ behind)) := by
    intro d hd
    simp only [List.mem_cons, List.mem_append] at hd ⊢
    exact hd.imp_right (Or.imp_right .inr)
  have hedited := lexemes_edited h hanchor (anchor_opensNoRawText _ _) hspelling rfl hless
    hread (anchor_opensNoRawText _ _)
  have hpage' : left ++ rest = earlier.flatMap spelling ++
      ('<' :: 'a' :: ' ' :: (before ++ behind) ++ later.flatMap spelling) := by
    rw [hleft, hrest]
    simp
  exact ⟨_, _, _, hpage' ▸ hedited, hanchor, rfl⟩

/-- What stands behind `left` in a page is an `id` of its own of an `a` tag. -/
def IsOwnId (page left id : List Char) : Prop :=
  ∃ earlier tag later before behind, lexemes {} page = earlier ++ tag :: later ∧
    left = earlier.flatMap spelling ++ ("<a ".toList ++ before) ∧ BelongsTo tag before id behind

theorem tokens_withoutId {left id value rest : List Char} (hid : IsId id value)
    (hown : IsOwnId (left ++ (id ++ rest)) left id) :
    List.Forall₂ Token.LosesId ((lexemes {} (left ++ (id ++ rest))).filterMap (·.token))
      ((lexemes {} (left ++ rest)).filterMap (·.token)) := by
  obtain ⟨earlier, tag, later, before, behind, hpage, hleft, hbelongs⟩ := hown
  obtain ⟨less, attributes, selfClosing, hless, htoken, htoken'⟩ :=
    lexemes_withoutId hid hpage hleft hbelongs
  have hsame (ts : List Token) : List.Forall₂ Token.LosesId ts ts :=
    List.forall₂_same.mpr fun t _ => .same t
  rw [hpage, hless, List.filterMap_append, List.filterMap_append, List.filterMap_cons_some htoken,
    List.filterMap_cons_some htoken']
  exact List.rel_append (hsame _) (.cons (.erased attributes selfClosing) (hsame _))

/-- When an `id` is removed, those in front of it are still there. -/
theorem IsOwnId.stays {left between id value id' value' rest : List Char} (hid : IsId id value)
    (hid' : IsId id' value') (hown : IsOwnId (left ++ (id ++ between) ++ (id' ++ rest)) left id)
    (hown' : IsOwnId (left ++ (id ++ between) ++ (id' ++ rest)) (left ++ (id ++ between)) id') :
    IsOwnId (left ++ (id ++ between) ++ rest) left id := by
  obtain ⟨earlier, tag, later, before, behind, hpage, hleft, hbelongs⟩ := hown
  obtain ⟨earlier', tag', later', before', behind', hpage', hleft', hbelongs'⟩ := hown'
  obtain ⟨less, -, -, hless, -⟩ := lexemes_withoutId hid' hpage' hleft' hbelongs'
  rw [hpage'] at hpage
  have hsame (he : earlier' = earlier) (ht : tag' = tag) : False := by
    subst he ht
    refine hbelongs.unique hid (?_ : BelongsTo tag' (before ++ (id ++ between)) id' behind')
    rw [hleft] at hleft'
    simp only [List.append_assoc, List.append_cancel_left_eq] at hleft'
    rwa [hleft']
  obtain ⟨m, he, hm⟩ | ⟨m, he, hm⟩ := List.append_eq_append_iff.mp hpage
  · cases m with
    | nil => exact absurd (List.cons.inj hm).1 (hsame (he.trans (List.append_nil _)).symm)
    | cons k m =>
      -- The tag of the earlier `id` would be behind the tag of the later one.
      obtain ⟨rfl, -⟩ := List.cons.inj hm
      have hlen := congrArg List.length hleft
      have hlen' := congrArg List.length hleft'
      rw [he, List.flatMap_append, List.flatMap_cons, hbelongs'.spelling] at hlen
      simp only [List.length_append] at hlen hlen'
      have hpos := hid'.length_pos
      omega
  · cases m with
    | nil => exact absurd (List.cons.inj hm).1.symm (hsame (he.trans (List.append_nil _)))
    | cons k m =>
      obtain ⟨rfl, rfl⟩ := List.cons.inj hm
      refine ⟨earlier, tag, m ++ less :: later', before, behind, ?_, hleft, hbelongs⟩
      rw [hless, he, List.append_assoc]
      rfl

/-! ### Comments -/

namespace IdAnchor

/-- The anchors with an `id` that are found in a comment, and the characters between them. -/
def piecesOf (comment : String) : List (Char ⊕ IdAnchor) := pieces read? comment.toList

/-- Every `id` that is removed from a comment is one of its own. -/
def AllOwn (comment : String) : Prop :=
  ∀ earlier a later, piecesOf comment = earlier ++ .inr a :: later →
    IsOwnId comment.toList (rendered text earlier ++ ("<a ".toList ++ a.before)) a.id

/-- The tokens of a page lose no more than the `id` attributes of the anchors in its first part. -/
theorem rendered_loses (ps : List (Char ⊕ IdAnchor)) (behind : List Char)
    (hids : ∀ a, .inr a ∈ ps → ∃ value, IsId a.id value)
    (hown : ∀ earlier a later, ps = earlier ++ .inr a :: later →
      IsOwnId (rendered text ps ++ behind) (rendered text earlier ++ ("<a ".toList ++ a.before))
        a.id) :
    List.Forall₂ Token.LosesId ((lexemes {} (rendered text ps ++ behind)).filterMap (·.token))
      ((lexemes {} (rendered plain ps ++ behind)).filterMap (·.token)) := by
  -- The last `id` goes first, so that what stands before the others does not change.
  induction ps using List.reverseRecOn generalizing behind with
  | nil => exact List.forall₂_same.mpr fun t _ => .same t
  | append_singleton ps p ih =>
    have hids' : ∀ a, .inr a ∈ ps → ∃ value, IsId a.id value := fun a ha =>
      hids a (List.mem_append_left _ ha)
    cases p with
    | inl c =>
      have hpage (write : IdAnchor → List Char) : rendered write (ps ++ [.inl c]) ++ behind =
          rendered write ps ++ c :: behind := by
        simp [rendered]
      rw [hpage] at hown ⊢
      rw [hpage]
      refine ih (c :: behind) hids' fun earlier a later hps => hown earlier a (later ++ [.inl c]) ?_
      rw [hps, List.append_assoc]
      rfl
    | inr a =>
      obtain ⟨value, hid⟩ := hids a (List.mem_append_right _ List.mem_cons_self)
      have hpage : rendered text (ps ++ [.inr a]) ++ behind =
          (rendered text ps ++ ("<a ".toList ++ a.before)) ++
            (a.id ++ (a.behind ++ '>' :: behind)) := by
        simp [rendered, text]
      have hless : (rendered text ps ++ ("<a ".toList ++ a.before)) ++ (a.behind ++ '>' :: behind) =
          rendered text ps ++ (a.plain ++ behind) := by
        simp [plain]
      have hplain : rendered plain (ps ++ [.inr a]) ++ behind =
          rendered plain ps ++ (a.plain ++ behind) := by
        simp [rendered]
      rw [hpage] at hown ⊢
      rw [hplain]
      have hlast := hown ps a [] rfl
      have hfirst := tokens_withoutId hid hlast
      rw [hless] at hfirst
      refine Token.loses_trans hfirst (ih (a.plain ++ behind) hids' fun earlier b later hps => ?_)
      obtain ⟨value', hid'⟩ := hids' b (hps ▸ List.mem_append_right _ List.mem_cons_self)
      have hleft : rendered text ps ++ ("<a ".toList ++ a.before) =
          (rendered text earlier ++ ("<a ".toList ++ b.before)) ++ (b.id ++ (b.behind ++
            '>' :: (rendered text later ++ ("<a ".toList ++ a.before)))) := by
        rw [hps]
        simp [rendered, text]
      have hb := hown earlier b (later ++ [.inr a]) (by rw [hps, List.append_assoc]; rfl)
      rw [← hless, hleft]
      rw [hleft] at hlast hb
      exact hb.stays hid' hid hlast

/-- **What a comment loses when the `id` attributes of its anchors are removed.** A comment is anchors
with an `id` and the characters between them; removing copies the characters, and of each anchor all
but one attribute `id`. Where every such `id` is an attribute of its own of an `a` tag, the comment
keeps its tokens, in the same order and with the same names, values and text: those tags have lost
their `id`, and nothing else is lost. -/
theorem withoutIds_tokens (comment : String) :
    comment.toList = rendered text (piecesOf comment) ∧
    (withoutIds comment).toList = rendered plain (piecesOf comment) ∧
    (∀ a, .inr a ∈ piecesOf comment → ∃ value, IsId a.id value) ∧
    (AllOwn comment →
      List.Forall₂ Token.LosesId ((tokens {} comment.toList).map (·.token))
        ((tokens {} (withoutIds comment).toList).map (·.token))) := by
  have hcomment : comment.toList = rendered text (piecesOf comment) :=
    (rendered_pieces (fun s a rest h => (read?_eq h).1) _).symm
  have hwithout : (withoutIds comment).toList = rendered plain (piecesOf comment) := by
    rw [withoutIds, String.toList_ofList, anchorWithId?_eq, replaceAll_eq_rendered]
    rfl
  have hids : ∀ a, .inr a ∈ piecesOf comment → ∃ value, IsId a.id value := by
    intro a ha
    obtain ⟨s, rest, hread⟩ := found_of_mem_pieces ha
    exact (read?_eq hread).2
  refine ⟨hcomment, hwithout, hids, fun hown => ?_⟩
  unfold tokens
  rw [map_token_located, map_token_located, hwithout]
  unfold AllOwn at hown
  rw [hcomment] at hown ⊢
  have hloses := rendered_loses (piecesOf comment) [] hids (by simpa using hown)
  simpa using hloses

/-- A link with an `id` behind a link that has none. The one that is found begins with the first. -/
theorem second_link_loses_id :
    let comment := "<a href=\"/a\">u</a><a href=\"/b\" id=\"x1\" title=\"t\">y</a><b id=\"k\">z</b>"
    AllOwn comment ∧
      withoutIds comment = "<a href=\"/a\">u</a><a href=\"/b\" title=\"t\">y</a><b id=\"k\">z</b>" ∧
      List.Forall₂ Token.LosesId ((tokens {} comment.toList).map (·.token))
        ((tokens {} (withoutIds comment).toList).map (·.token)) := by
  intro comment
  have hpieces : piecesOf comment =
      .inr ⟨"href=\"/a\">u</a><a href=\"/b\"".toList, " id=\"x1\"".toList,
        " title=\"t\"".toList⟩ :: "y</a><b id=\"k\">z</b>".toList.map .inl := by
    decide +kernel
  have hlexemes : lexemes {} comment.toList =
      [⟨"<a href=\"/a\">".toList, some (.openTag "a" (.ofList [("href", "/a")]) false)⟩,
        ⟨"u".toList, some (.text "u")⟩, ⟨"</a>".toList, some (.closeTag "a")⟩] ++
      ⟨"<a href=\"/b\" id=\"x1\" title=\"t\">".toList,
          some (.openTag "a" (.ofList [("href", "/b"), ("id", "x1"), ("title", "t")]) false)⟩ ::
        [⟨"y".toList, some (.text "y")⟩, ⟨"</a>".toList, some (.closeTag "a")⟩,
          ⟨"<b id=\"k\">".toList, some (.openTag "b" (.ofList [("id", "k")]) false)⟩,
          ⟨"z".toList, some (.text "z")⟩, ⟨"</b>".toList, some (.closeTag "b")⟩] := by
    decide +kernel
  have hown : AllOwn comment := by
    intro earlier a later hps
    rw [hpieces] at hps
    cases earlier with
    | nil =>
      obtain ⟨ha, -⟩ := List.cons.inj hps
      obtain rfl := Sum.inr.inj ha
      refine ⟨_, _, _, "href=\"/b\"".toList, " title=\"t\">".toList, hlexemes, by decide +kernel,
        ⟨_, _, _, rfl⟩, rfl, ?_, by decide +kernel⟩
      have hkey : IsKey "href".toList := ⟨nofun, List.all_eq_true.mp rfl⟩
      exact .quoted hkey (.inl rfl) (by decide : '"' ∉ "/b".toList) .nil
    | cons p earlier =>
      have hmem : .inr a ∈ "y</a><b id=\"k\">z</b>".toList.map (Sum.inl : Char → Char ⊕ IdAnchor) := by
        rw [(List.cons.inj hps).2]
        exact List.mem_append_right _ List.mem_cons_self
      obtain ⟨c, -, hc⟩ := List.mem_map.mp hmem
      cases hc
  exact ⟨hown, by decide +kernel, (withoutIds_tokens comment).2.2.2 hown⟩

/-- The `id` may be that of another tag, which is not an anchor. -/
theorem span_loses_id :
    let comment := "<a href=\"/b\">y</a> <span id=\"q\">z</span>"
    withoutIds comment = "<a href=\"/b\">y</a> <span>z</span>" ∧
      ¬ List.Forall₂ Token.LosesId ((tokens {} comment.toList).map (·.token))
        ((tokens {} (withoutIds comment).toList).map (·.token)) := by
  intro comment
  refine ⟨by decide +kernel, fun h => ?_⟩
  have hbefore : (tokens {} comment.toList).map (·.token) =
      [.openTag "a" (.ofList [("href", "/b")]) false, .text "y", .closeTag "a", .text " ",
        .openTag "span" (.ofList [("id", "q")]) false, .text "z", .closeTag "span"] := by
    decide +kernel
  have hbehind : (tokens {} (withoutIds comment).toList).map (·.token) =
      [.openTag "a" (.ofList [("href", "/b")]) false, .text "y", .closeTag "a", .text " ",
        .openTag "span" .empty false, .text "z", .closeTag "span"] := by
    decide +kernel
  rw [hbefore, hbehind] at h
  simp only [List.forall₂_cons] at h
  obtain ⟨-, -, -, -, hspan, -⟩ := h
  exact absurd hspan.eq_or_anchor (by decide +kernel)

end IdAnchor
end Comment
end Imageboard
