import GraphClient.Address
import GraphClient.Proofs.DecimalTexts

/-!
# Addresses and their URIs

A URI is cut at its first slash, and the authority before it at a bracket or at its last colon. The
URI of an address is cut at the same places, so that the address is read back from it, unless the
host has characters that mark such a place. The hosts of addresses that were read from URIs have
none of them, except that brackets may enclose a host which begins with a bracket itself.
-/

namespace GraphClient

namespace Decimal

lemma nat?_toDigits (n : Nat) : nat? (Nat.toDigits 10 n) = some n :=
  nat?_eq_some_iff.2 ⟨⟨Nat.toDigits_ne_nil, isDigit_of_mem_toDigits⟩, value_toDigits n⟩

lemma uint16?_toDigits (n : UInt16) : uint16? (Nat.toDigits 10 n.toNat) = some n := by
  have hlt : n.toNat < Nat.pow 2 16 := n.toNat_lt
  have hnat := nat?_toDigits n.toNat
  unfold uint16?
  dsimp only
  split
  · rename_i rest h
    have hplus := isDigit_of_mem_toDigits (m := n.toNat) '+' (h ▸ List.mem_cons_self)
    exact absurd hplus (by decide)
  · rw [hnat, Option.bind_some, if_pos hlt, UInt16.ofNat_toNat]

end Decimal

namespace ServerAddress

variable {m : Char} {text before after host port : List Char}

/-! ### Cutting a text at a mark -/

lemma bne_of_not_mem (h : m ∉ text) : ∀ c ∈ text, (c != m) = true := fun c hc => by
  simpa using fun heq : c = m => h (heq ▸ hc)

lemma takeWhile_mark (h : m ∉ before) : (before ++ m :: after).takeWhile (· != m) = before := by
  rw [List.takeWhile_append_of_pos (bne_of_not_mem h), List.takeWhile_cons_of_neg (by simp),
    List.append_nil]

lemma dropWhile_mark (h : m ∉ before) :
    (before ++ m :: after).dropWhile (· != m) = m :: after := by
  rw [List.dropWhile_append_of_pos (bne_of_not_mem h), List.dropWhile_cons_of_neg (by simp)]

lemma dropWhile_eq_nil (h : m ∉ text) : text.dropWhile (· != m) = [] :=
  List.dropWhile_eq_nil_iff.2 (bne_of_not_mem h)

lemma splitLastColon?_append (h : ':' ∉ port) :
    splitLastColon? (host ++ ':' :: port) = some (host, port) := by
  have hport : ':' ∉ port.reverse := by simpa using h
  have hreverse : (host ++ ':' :: port).reverse = port.reverse ++ ':' :: host.reverse := by simp
  rw [splitLastColon?, hreverse, takeWhile_mark hport, dropWhile_mark hport]
  simp

lemma splitLastColon?_of_not_mem (h : ':' ∉ text) : splitLastColon? text = none := by
  have hreverse : ':' ∉ text.reverse := by simpa using h
  rw [splitLastColon?, dropWhile_eq_nil hreverse]

lemma exists_last_colon (h : ':' ∈ text) :
    ∃ host port, text = host ++ ':' :: port ∧ ':' ∉ port := by
  obtain ⟨port, host, hreverse, hport⟩ := List.eq_append_cons_of_mem (List.mem_reverse.2 h)
  refine ⟨host.reverse, port.reverse, ?_, by simpa using hport⟩
  simpa using congrArg List.reverse hreverse

/-! ### Authorities -/

lemma bracketed_of_not_mem (h : ']' ∉ text) :
    bracketed text = .error (.configuration "Unterminated IPv6 address") := by
  rw [bracketed, dropWhile_eq_nil h]

lemma bracketed_append (h : ']' ∉ host) : bracketed (host ++ ']' :: ':' :: port) =
    (portOfText port).map fun port => (host, port) := by
  simp only [bracketed, dropWhile_mark h, takeWhile_mark h]

lemma authority_of_bracket (rest : List Char) : authority ('[' :: rest) = bracketed rest := by
  rw [authority]

lemma authority_of_not_bracket (h : text.head? ≠ some '[') : authority text =
    match splitLastColon? text with
    | none => .ok (text, defaultPort)
    | some (host, port) =>
      if host.contains ':' then .error (.configuration "Invalid server address")
      else (portOfText port).map fun port => (host, port) := by
  unfold authority
  split
  · simp at h
  · rfl

/-- A host as it stands in a URI: in brackets if it has a colon. -/
def hostText (host : List Char) : List Char := if ':' ∈ host then '[' :: host ++ [']'] else host

def portText (port : UInt16) : List Char := Nat.toDigits 10 port.toNat

lemma not_mem_portText {c : Char} (port : UInt16) (h : Decimal.isDigit c = false) :
    c ∉ portText port := fun hc => by
  rw [Decimal.isDigit_of_mem_toDigits c hc] at h
  cases h

lemma portOfText_portText (port : UInt16) : portOfText (portText port) = .ok port := by
  rw [portOfText, portText, Decimal.uint16?_toDigits]

/-- Host and port are read back, unless a bracket ends or begins a host that it does not enclose. -/
lemma authority_hostText (hclose : ':' ∈ host → ']' ∉ host)
    (hopen : ':' ∈ host ∨ host.head? ≠ some '[') (hne : host ≠ []) (port : UInt16) :
    authority (hostText host ++ ':' :: portText port) = .ok (host, port) := by
  by_cases hcolon : ':' ∈ host
  · rw [hostText, if_pos hcolon, List.cons_append, List.cons_append, List.append_assoc,
      authority_of_bracket, List.singleton_append, bracketed_append (hclose hcolon),
      portOfText_portText]
    rfl
  · have hport : ':' ∉ portText port := not_mem_portText port (by decide)
    have hhead : (host ++ ':' :: portText port).head? ≠ some '[' := by
      rw [List.head?_append, List.head?_eq_some_head hne, Option.some_or,
        ← List.head?_eq_some_head hne]
      exact hopen.resolve_left hcolon
    have hcontains : host.contains ':' = false := by simpa using hcolon
    rw [hostText, if_neg hcolon, authority_of_not_bracket hhead, splitLastColon?_append hport]
    dsimp only
    rw [hcontains, portOfText_portText]
    rfl

/-- What holds of a host that was read from an authority. -/
structure IsRead (text host : List Char) : Prop where
  subset : host ⊆ text
  closing : ':' ∈ host ∨ host.head? = some '[' → ']' ∉ host

lemma host_of_map {result : Except ClientError UInt16} {port : UInt16}
    (h : (result.map fun port => (before, port)) = .ok (host, port)) : host = before := by
  cases result with
  | error => cases h
  | ok =>
    cases h
    rfl

lemma isRead_of_bracketed {port : UInt16} (h : bracketed text = .ok (host, port)) :
    IsRead text host := by
  by_cases hmem : ']' ∈ text
  · obtain ⟨before, after, rfl, hbefore⟩ := List.eq_append_cons_of_mem hmem
    have hhost : host = before := by
      rw [bracketed, dropWhile_mark hbefore, takeWhile_mark hbefore] at h
      dsimp only at h
      split at h
      · cases h
        rfl
      · exact host_of_map h
      · cases h
    subst hhost
    exact ⟨List.subset_append_left _ _, fun _ => hbefore⟩
  · rw [bracketed_of_not_mem hmem] at h
    cases h

lemma isRead_of_authority {port : UInt16} (h : authority text = .ok (host, port)) :
    IsRead text host := by
  by_cases hhead : text.head? = some '['
  · obtain ⟨rest, rfl⟩ := List.head?_eq_some_iff.1 hhead
    have hread : IsRead rest host := isRead_of_bracketed (authority_of_bracket rest ▸ h)
    exact ⟨List.subset_cons_of_subset _ hread.subset, hread.closing⟩
  · -- without brackets around it the host has no colon and begins as the text does
    suffices ':' ∉ host ∧ ∃ rest, text = host ++ rest by
      obtain ⟨hcolon, rest, rfl⟩ := this
      refine ⟨List.subset_append_left _ _, fun hmark => ?_⟩
      have hopen : host.head? = some '[' := hmark.resolve_left hcolon
      exact absurd (by rw [List.head?_append, hopen, Option.some_or]) hhead
    rw [authority_of_not_bracket hhead] at h
    by_cases hmem : ':' ∈ text
    · obtain ⟨before, after, rfl, hafter⟩ := exists_last_colon hmem
      rw [splitLastColon?_append hafter] at h
      dsimp only at h
      split at h
      · cases h
      · rename_i hcontains
        have hhost : host = before := host_of_map h
        subst hhost
        exact ⟨by simpa using hcontains, _, rfl⟩
    · rw [splitLastColon?_of_not_mem hmem] at h
      cases h
      exact ⟨hmem, [], by simp⟩

/-! ### Whole URIs -/

lemma dropStart?_append (start rest : List Char) :
    dropStart? start (start ++ rest) = some rest := by
  rw [dropStart?, if_pos (List.prefix_append start rest), List.drop_left]

/-- The scheme of a URI with the mark after it. -/
def schemeText (secure : Bool) : List Char := (if secure then "wss://" else "ws://").toList

lemma scheme_schemeText (secure : Bool) (rest : List Char) :
    scheme (schemeText secure ++ rest) = .ok (secure, rest) := by
  cases secure with
  | true =>
    have hstart : dropStart? "wss://".toList (schemeText true ++ rest) = some rest :=
      dropStart?_append _ _
    rw [scheme, hstart]
  | false =>
    have hstart : dropStart? "ws://".toList (schemeText false ++ rest) = some rest :=
      dropStart?_append _ _
    have hother : dropStart? "wss://".toList (schemeText false ++ rest) = none := by
      refine if_neg ?_
      change ¬ ['w', 's', 's', ':', '/', '/'] <+: 'w' :: 's' :: ':' :: '/' :: '/' :: rest
      simp
    rw [scheme, hother, hstart]

lemma toList_url (a : ServerAddress) : a.url.toList = schemeText a.secure ++
    (hostText a.host.toList ++ ':' :: portText a.port ++ a.path.toList) := by
  have hport : (toString a.port.toNat).toList = portText a.port := by
    change a.port.toNat.repr.toList = _
    rw [Nat.repr_eq_ofList_toDigits, String.toList_ofList, portText]
  have hhost : (if a.host.toList.contains ':' then "[" ++ a.host ++ "]" else a.host).toList =
      hostText a.host.toList := by
    by_cases h : ':' ∈ a.host.toList <;> simp [hostText, h]
  have hscheme : (if a.secure then "wss" else "ws").toList ++ "://".toList =
      schemeText a.secure := by
    cases a.secure <;> rfl
  have hcolon : ":".toList = [':'] := rfl
  rw [url, String.toList_append, String.toList_append, String.toList_append, String.toList_append,
    String.toList_append, hscheme, hhost, hport, hcolon]
  simp only [List.append_assoc, List.cons_append, List.nil_append]

/-- The path in a URI without its scheme: what is left from the first slash on, if there is one. -/
def pathOf (rest : List Char) : String :=
  if (rest.dropWhile (· != '/')).isEmpty then defaultPath
  else String.ofList (rest.dropWhile (· != '/'))

lemma head?_pathOf (rest : List Char) : (pathOf rest).toList.head? = some '/' := by
  by_cases hmem : '/' ∈ rest
  · obtain ⟨before, after, rfl, hbefore⟩ := List.eq_append_cons_of_mem hmem
    rw [pathOf, dropWhile_mark hbefore]
    simp
  · rw [pathOf, dropWhile_eq_nil hmem, List.isEmpty_nil, if_pos rfl]
    decide

/-- A URI is read part by part. -/
lemma ofUri_eq {uri : String} {secure : Bool} {rest : List Char}
    (h : scheme uri.toList = .ok (secure, rest)) : ofUri uri =
      (authority (rest.takeWhile (· != '/'))).bind fun read =>
        if read.1.isEmpty then .error (.configuration "Missing host")
        else .ok ⟨String.ofList read.1, read.2, pathOf rest, secure⟩ := by
  rw [ofUri, h]
  rfl

/-- The URI of an address is cut where it was put together. -/
lemma ofUri_url_eq {a : ServerAddress} (hslash : '/' ∉ a.host.toList)
    (hpath : a.path.toList.head? = some '/') : ofUri a.url =
      (authority (hostText a.host.toList ++ ':' :: portText a.port)).bind fun read =>
        if read.1.isEmpty then .error (.configuration "Missing host")
        else .ok ⟨String.ofList read.1, read.2, a.path, a.secure⟩ := by
  have hhost : '/' ∉ hostText a.host.toList := by
    by_cases h : ':' ∈ a.host.toList <;> simp [hostText, h, hslash]
  have hport : '/' ∉ portText a.port := not_mem_portText a.port (by decide)
  have hauthority : '/' ∉ hostText a.host.toList ++ ':' :: portText a.port := by
    simp [hhost, hport]
  obtain ⟨rest, hrest⟩ := List.head?_eq_some_iff.1 hpath
  have hscheme := scheme_schemeText a.secure
    (hostText a.host.toList ++ ':' :: portText a.port ++ a.path.toList)
  rw [← toList_url] at hscheme
  have hpathOf : pathOf (hostText a.host.toList ++ ':' :: portText a.port ++ a.path.toList) =
      a.path := by
    rw [pathOf, hrest, dropWhile_mark hauthority, ← hrest, String.ofList_toList,
      if_neg (by simp [hrest])]
  rw [ofUri_eq hscheme, hpathOf, hrest, takeWhile_mark hauthority]

/-- An address is read back from its URI if no character of the host marks a place to cut. -/
lemma ofUri_url {a : ServerAddress} (hne : a.host.toList ≠ []) (hslash : '/' ∉ a.host.toList)
    (hpath : a.path.toList.head? = some '/') (hclose : ':' ∈ a.host.toList → ']' ∉ a.host.toList)
    (hopen : ':' ∈ a.host.toList ∨ a.host.toList.head? ≠ some '[') : ofUri a.url = .ok a := by
  have hempty : a.host.toList.isEmpty = false := by simpa using hne
  rw [ofUri_url_eq hslash hpath, authority_hostText hclose hopen hne]
  change (if a.host.toList.isEmpty then _ else _) = _
  rw [hempty, String.ofList_toList]
  rfl

/-- A host without a colon is not put in brackets, and so must not begin with one. -/
lemma ofUri_url_of_open {a : ServerAddress} (hslash : '/' ∉ a.host.toList)
    (hpath : a.path.toList.head? = some '/') (hclose : ']' ∉ a.host.toList)
    (hcolon : ':' ∉ a.host.toList) (hopen : a.host.toList.head? = some '[') :
    ofUri a.url = .error (.configuration "Unterminated IPv6 address") := by
  obtain ⟨rest, hrest⟩ := List.head?_eq_some_iff.1 hopen
  have hport : ']' ∉ portText a.port := not_mem_portText a.port (by decide)
  have hmem : ']' ∉ rest ++ ':' :: portText a.port := by
    rw [hrest] at hclose
    simpa [hport] using hclose
  rw [ofUri_url_eq hslash hpath, hostText, if_neg hcolon, hrest, List.cons_append,
    authority_of_bracket, bracketed_of_not_mem hmem]
  rfl

/-- What an address has that was read from a URI. -/
structure IsFromUri (a : ServerAddress) : Prop where
  host_ne_nil : a.host.toList ≠ []
  slash : '/' ∉ a.host.toList
  path : a.path.toList.head? = some '/'
  closing : ':' ∈ a.host.toList ∨ a.host.toList.head? = some '[' → ']' ∉ a.host.toList

lemma isFromUri_of_ofUri {uri : String} {a : ServerAddress} (h : ofUri uri = .ok a) :
    a.IsFromUri := by
  cases hscheme : scheme uri.toList with
  | error e =>
    rw [ofUri, hscheme] at h
    cases h
  | ok start =>
    obtain ⟨secure, rest⟩ := start
    rw [ofUri_eq hscheme] at h
    cases hread : authority (rest.takeWhile (· != '/')) with
    | error e =>
      rw [hread] at h
      cases h
    | ok read =>
      obtain ⟨host, port⟩ := read
      have hhost := isRead_of_authority hread
      have hslash : '/' ∉ host := fun hmem =>
        absurd (List.mem_takeWhile_imp (hhost.subset hmem)) (by decide)
      rw [hread] at h
      change (if host.isEmpty then _ else _) = _ at h
      split at h
      · cases h
      · rename_i hne
        cases h
        exact ⟨by simpa using hne, by simpa using hslash, head?_pathOf rest,
          by simpa using hhost.closing⟩

/-- An address that was read from a URI is read back from its own URI, with every part as it was,
exactly unless its host begins with a bracket and has no colon. The URI of such an address has no
bracket that ends the host, and is refused. -/
theorem ofUri_url_of_ofUri {uri : String} {a : ServerAddress} (h : ofUri uri = .ok a) :
    (ofUri a.url = .ok a ↔ ':' ∈ a.host.toList ∨ a.host.toList.head? ≠ some '[') ∧
      (':' ∉ a.host.toList → a.host.toList.head? = some '[' →
        ofUri a.url = .error (.configuration "Unterminated IPv6 address")) := by
  obtain ⟨hne, hslash, hpath, hclosing⟩ := isFromUri_of_ofUri h
  have hrefused (hcolon : ':' ∉ a.host.toList) (hopen : a.host.toList.head? = some '[') :
      ofUri a.url = .error (.configuration "Unterminated IPv6 address") :=
    ofUri_url_of_open hslash hpath (hclosing (.inr hopen)) hcolon hopen
  refine ⟨⟨fun hback => ?_, fun hopen => ?_⟩, hrefused⟩
  · by_contra hmarked
    rw [not_or, not_not] at hmarked
    rw [hrefused hmarked.1 hmarked.2] at hback
    cases hback
  · exact ofUri_url hne hslash hpath (fun hcolon => hclosing (.inl hcolon)) hopen

/-- A host with colons is read back although it begins with a bracket, and one without is not. -/
theorem ofUri_url_of_brackets :
    ofUri "wss://[[fe80::1]/p" = .ok ⟨"[fe80::1", 8182, "/p", true⟩ ∧
      ofUri (url ⟨"[fe80::1", 8182, "/p", true⟩) = .ok ⟨"[fe80::1", 8182, "/p", true⟩ ∧
      ofUri "[[x]" = .ok ⟨"[x", 8182, "/gremlin", false⟩ ∧
      url ⟨"[x", 8182, "/gremlin", false⟩ = "ws://[x:8182/gremlin" ∧
      ofUri "ws://[x:8182/gremlin" = .error (.configuration "Unterminated IPv6 address") := by
  have hcolons : ofUri "wss://[[fe80::1]/p" = .ok ⟨"[fe80::1", 8182, "/p", true⟩ := by rfl
  have hplain : ofUri "[[x]" = .ok ⟨"[x", 8182, "/gremlin", false⟩ := by rfl
  have hurl : url ⟨"[x", 8182, "/gremlin", false⟩ = "ws://[x:8182/gremlin" := by rfl
  exact ⟨hcolons, (ofUri_url_of_ofUri hcolons).1.2 (.inl (by decide)), hplain, hurl,
    hurl ▸ (ofUri_url_of_ofUri hplain).2 (by decide) rfl⟩

/-- An address put together from any texts is read back from its URI exactly if no character of it
marks a place to cut where there is none: the host is not empty and has no slash, the path begins
with one, no bracket ends a host with colons early, and none begins a host without colons. -/
theorem ofUri_url_eq_self_iff (host path : String) (port : UInt16) (secure : Bool) :
    let a : ServerAddress := { new host port with path, secure }
    ofUri a.url = .ok a ↔
      host ≠ "" ∧ '/' ∉ host.toList ∧ path.toList.head? = some '/' ∧
        (':' ∈ host.toList → ']' ∉ host.toList) ∧
        (':' ∉ host.toList → host.toList.head? ≠ some '[') := by
  intro a
  constructor
  · intro hback
    obtain ⟨hne, hslash, hpath, hclosing⟩ := isFromUri_of_ofUri hback
    refine ⟨fun hempty => hne (String.toList_eq_nil_iff.2 hempty), hslash, hpath,
      fun hcolon => hclosing (.inl hcolon), fun hcolon hopen => ?_⟩
    rw [ofUri_url_of_open hslash hpath (hclosing (.inr hopen)) hcolon hopen] at hback
    cases hback
  · rintro ⟨hne, hslash, hpath, hclose, hopen⟩
    have hhost : a.host.toList ≠ [] := fun hempty => hne (String.toList_eq_nil_iff.1 hempty)
    exact ofUri_url hhost hslash hpath hclose (or_iff_not_imp_left.2 hopen)

end ServerAddress

end GraphClient
