import LoginGate.Proofs.Url.Address
import LoginGate.Telemetry.Exporter
import LoginGate.Url.Basic
import Mathlib.Data.List.DropRight

/-!
# The host of an endpoint

An endpoint that is reached over TLS is written as a host, with a port after a colon and
a path after a slash if it has them, and with or without `https://` in front
(`IsSecured`). The host is a name, or an address of 128 bits in brackets.

* `tlsDomain_of_endpoint`: a host that is a name is what the certificate is verified
  against. Of an address, only what stands before its first colon is, and that is never
  the address;
* `tlsDomain_of_loopback`: of `[::1]`, it is a bracket.

The host is taken to end at the first colon. No colon is in a name, but some are in
every address.
-/

namespace LoginGate.Telemetry

/-! ### Written endpoints -/

/-- A host that is a name. -/
structure IsHostName (host : String) : Prop where
  /-- It is not empty. -/
  ne_empty : host ≠ ""
  /-- No user ends in it, and no port, path, query or fragment begins in it. -/
  plain : ∀ c ∈ host.toList, c ∉ ['/', ':', '@', '?', '#']

/-- A host that is an address of 128 bits in brackets. -/
def IsHostAddress (host : String) : Prop :=
  ∃ address groups, Url.ipv6? address = some groups ∧ host.toList = '[' :: address ++ [']']

/-- A host with what may follow it: digits after a colon, and anything after a slash. -/
def IsLocation (host location : String) : Prop :=
  ∃ port path : Option (List Char), (∀ digits ∈ port, ∀ c ∈ digits, c.isDigit = true) ∧
    location.toList = host.toList ++ Url.markedText ':' port ++ Url.markedText '/' path

/-- An endpoint at a host that is reached over TLS. -/
inductive IsSecured (host : String) : String → Prop
  /-- The scheme is written. -/
  | explicit {location : String} (h : IsLocation host location) :
    IsSecured host ("https://" ++ location)
  /-- No scheme is written. -/
  | implicit {location : String} (h : IsLocation host location)
    (hhttp : ¬"http://".toList <+: location.toList)
    (hhttps : ¬"https://".toList <+: location.toList) : IsSecured host location

/-! ### Ends of hosts -/

section Hosts

variable {s t : List Char} {host location endpoint : String}

/-- What stands before the path and the port. -/
def hostOf (location : List Char) : List Char :=
  (location.takeWhile (· ≠ '/')).takeWhile (· ≠ ':')

/-- Nothing is taken of a text that begins with the end. -/
theorem takeWhile_append_of_head? {p : Char → Bool} (h : ∀ c ∈ t.head?, p c = false) :
    (s ++ t).takeWhile p = s.takeWhile p := by
  induction s with
  | nil =>
    cases t with
    | nil => rfl
    | cons c t => exact List.takeWhile_cons_of_neg (by simp [h c rfl])
  | cons c s ih => rw [List.cons_append, List.takeWhile_cons, List.takeWhile_cons, ih]

theorem takeWhile_append_markedText (mark : Char) (text : Option (List Char)) :
    (s ++ Url.markedText mark text).takeWhile (· ≠ mark) = s.takeWhile (· ≠ mark) := by
  apply takeWhile_append_of_head?
  cases text with
  | none => exact nofun
  | some text => simp [Url.markedText]

theorem takeWhile_eq_self_of_not_mem {c : Char} (h : c ∉ s) : s.takeWhile (· ≠ c) = s :=
  List.takeWhile_eq_self_iff.2 fun _ hd => decide_eq_true (ne_of_mem_of_not_mem hd h)

/-- The slashes at the end stand behind the host. -/
theorem hostOf_dropSlashes : hostOf (s.reverse.dropWhile (· == '/')).reverse = hostOf s := by
  -- What is dropped begins with a slash if it is not empty, and there the host has ended.
  have hslashes : ∀ c ∈ (s.rtakeWhile (· == '/')).head?, decide (c ≠ '/') = false := by
    intro c hc
    have hslash := List.mem_rtakeWhile_imp (List.mem_of_mem_head? hc)
    simpa using hslash
  have hsplit : s.rdropWhile (· == '/') ++ s.rtakeWhile (· == '/') = s :=
    List.rdropWhile_append_rtakeWhile
  rw [hostOf, hostOf, ← congrArg (List.takeWhile (· ≠ '/')) hsplit,
    takeWhile_append_of_head? hslashes]
  rfl

/-- The port and the path end the host, and so does a colon in it. -/
theorem hostOf_location (h : IsLocation host location) (hslash : '/' ∉ host.toList) :
    hostOf location.toList = host.toList.takeWhile (· ≠ ':') := by
  obtain ⟨port, path, hdigits, hlocation⟩ := h
  have hport : '/' ∉ Url.markedText ':' port := by
    cases port with
    | none => exact List.not_mem_nil
    | some digits =>
      rw [Url.markedText, List.mem_cons, not_or]
      exact ⟨by decide, fun hmem => absurd (hdigits digits rfl _ hmem) (by decide)⟩
  have hauthority : (host.toList ++ Url.markedText ':' port).takeWhile (· ≠ '/') =
      host.toList ++ Url.markedText ':' port := by
    apply takeWhile_eq_self_of_not_mem
    rw [List.mem_append, not_or]
    exact ⟨hslash, hport⟩
  rw [hostOf, hlocation, takeWhile_append_markedText, hauthority, takeWhile_append_markedText]

/-! ### Verified hosts -/

theorem hasScheme_eq_true_iff {s : List Char} :
    hasScheme s = true ↔ "http://".toList <+: s ∨ "https://".toList <+: s := by
  rw [hasScheme, Bool.or_eq_true, List.isPrefixOf_iff_prefix, List.isPrefixOf_iff_prefix]

/-- A written scheme stays, and otherwise one is put in front and slashes are taken away
    behind. The host is the same. -/
theorem withScheme_of_isSecured (h : IsSecured host endpoint) :
    ∃ location rest, IsLocation host location ∧ hostOf rest = hostOf location.toList ∧
      withScheme endpoint = "https://" ++ String.ofList rest := by
  cases h with
  | @explicit location h =>
    refine ⟨location, _, h, rfl, ?_⟩
    have hscheme : hasScheme ("https://" ++ location).toList = true := by
      rw [hasScheme_eq_true_iff, String.toList_append]
      exact .inr (List.prefix_append _ _)
    rw [withScheme, if_pos hscheme, String.ofList_toList]
  | implicit h hhttp hhttps =>
    refine ⟨endpoint, _, h, hostOf_dropSlashes, ?_⟩
    have hscheme : ¬hasScheme endpoint.toList = true := by
      rw [hasScheme_eq_true_iff, not_or]
      exact ⟨hhttp, hhttps⟩
    rw [withScheme, if_neg hscheme]

theorem tlsDomain?_https (h : hostOf s ≠ []) :
    tlsDomain? ("https://" ++ String.ofList s) = some (String.ofList (hostOf s)) := by
  have hafter : Text.after? "https://".toList ("https://" ++ String.ofList s).toList = some s :=
    Text.after?_eq_some_iff.2 (by simp)
  rw [tlsDomain?, hafter, Option.bind_eq_bind, Option.bind_some]
  exact if_neg (mt List.isEmpty_iff.1 h)

/-- The certificate is verified against what stands before the first colon of the host. -/
theorem tlsDomain?_of_isSecured (h : IsSecured host endpoint) {before : String}
    (hslash : '/' ∉ host.toList) (hhost : host.toList.takeWhile (· ≠ ':') = before.toList)
    (hne : before ≠ "") : tlsDomain? (withScheme endpoint) = some before := by
  obtain ⟨location, rest, hlocation, hrest, hscheme⟩ := withScheme_of_isSecured h
  have hbefore : hostOf rest = before.toList := by
    rw [hrest, hostOf_location hlocation hslash, hhost]
  have hnil : hostOf rest ≠ [] := by
    rw [hbefore, ← String.toList_empty]
    exact mt String.toList_inj.1 hne
  rw [hscheme, tlsDomain?_https hnil, hbefore, String.ofList_toList]

theorem IsHostName.not_mem (h : IsHostName host) {c : Char} (hc : c ∈ ['/', ':', '@', '?', '#']) :
    c ∉ host.toList :=
  fun hmem => h.plain c hmem hc

/-- An address has a colon behind its bracket, and no slash. -/
theorem IsHostAddress.exists_cut (h : IsHostAddress host) : ∃ before rest,
    host = before ++ ":" ++ rest ∧ ':' ∉ before.toList ∧ before ≠ "" ∧ '/' ∉ host.toList := by
  obtain ⟨address, groups, hgroups, hhost⟩ := h
  obtain ⟨group, rest, rfl, hgroup⟩ := List.eq_append_cons_of_mem (Url.colon_mem_of_ipv6? hgroups)
  have hslash : '/' ∉ group ++ ':' :: rest := fun hmem =>
    absurd (Url.isAddressChar_of_ipv6? hgroups _ hmem) (by decide)
  refine ⟨String.ofList ('[' :: group), String.ofList (rest ++ [']']), ?_, ?_, ?_, ?_⟩
  · simp [← String.toList_inj, hhost]
  · rw [String.toList_ofList, List.mem_cons, not_or]
    exact ⟨by decide, hgroup⟩
  · simp [← String.toList_inj]
  · simpa [hhost] using hslash

end Hosts

/-- The certificate of an endpoint is verified against its host if that is a name. If it
    is an address in brackets, the certificate is verified against what stands before its
    first colon, which is not the host. -/
theorem tlsDomain_of_endpoint {host endpoint : String} (h : IsSecured host endpoint) :
    (IsHostName host → tlsDomain? (withScheme endpoint) = some host) ∧
    (IsHostAddress host →
      (∃ before rest, host = before ++ ":" ++ rest ∧ ':' ∉ before.toList ∧
        tlsDomain? (withScheme endpoint) = some before) ∧
      tlsDomain? (withScheme endpoint) ≠ some host) := by
  constructor
  · intro hname
    have hbefore : host.toList.takeWhile (· ≠ ':') = host.toList :=
      takeWhile_eq_self_of_not_mem (hname.not_mem (by decide))
    exact tlsDomain?_of_isSecured h (hname.not_mem (by decide)) hbefore hname.ne_empty
  · intro haddress
    obtain ⟨before, rest, hhost, hcolon, hne, hslash⟩ := haddress.exists_cut
    have hchars : host.toList = before.toList ++ ':' :: rest.toList := by simp [hhost]
    have hbefore : host.toList.takeWhile (· ≠ ':') = before.toList := by
      rw [hchars, takeWhile_append_of_head? (by simp), takeWhile_eq_self_of_not_mem hcolon]
    have hdomain := tlsDomain?_of_isSecured h hslash hbefore hne
    refine ⟨⟨before, rest, hhost, hcolon, hdomain⟩, fun hverified => ?_⟩
    -- The host has the colon that what stands before it has not.
    have heq : before = host := Option.some.inj (hdomain.symm.trans hverified)
    rw [heq, hchars] at hcolon
    exact hcolon (List.mem_append_right _ List.mem_cons_self)

/-- A name without a scheme in front and with slashes at the end, and an address. -/
theorem tlsDomain_of_collectors :
    (IsSecured "otel.tld" "otel.tld:4317/v1//" ∧ IsHostName "otel.tld" ∧
      tlsDomain? (withScheme "otel.tld:4317/v1//") = some "otel.tld") ∧
    IsSecured "[2001:db8::1]" "https://[2001:db8::1]:4317" ∧ IsHostAddress "[2001:db8::1]" ∧
      tlsDomain? (withScheme "https://[2001:db8::1]:4317") ≠ some "[2001:db8::1]" := by
  have hname : IsSecured "otel.tld" "otel.tld:4317/v1//" :=
    .implicit ⟨some "4317".toList, some "v1//".toList, by simp, by decide⟩ (by decide) (by decide)
  have haddress : IsSecured "[2001:db8::1]" ("https://" ++ "[2001:db8::1]:4317") :=
    .explicit ⟨some "4317".toList, none, by simp, by decide⟩
  have hplain : IsHostName "otel.tld" := ⟨by decide, by simp⟩
  have hgroups : IsHostAddress "[2001:db8::1]" :=
    ⟨"2001:db8::1".toList, [8193, 3512, 0, 0, 0, 0, 0, 1], by decide, by decide⟩
  exact ⟨⟨hname, hplain, (tlsDomain_of_endpoint hname).1 hplain⟩, haddress, hgroups,
    ((tlsDomain_of_endpoint haddress).2 hgroups).2⟩

/-- The host of this endpoint is the address of the machine itself, and the certificate
    is verified against a bracket. -/
theorem tlsDomain_of_loopback :
    IsSecured "[::1]" "https://[::1]:4317/x" ∧ IsHostAddress "[::1]" ∧
      tlsDomain? (withScheme "https://[::1]:4317/x") = some "[" := by
  have hendpoint : IsSecured "[::1]" ("https://" ++ "[::1]:4317/x") :=
    .explicit ⟨some "4317".toList, some "x".toList, by simp, by decide⟩
  exact ⟨hendpoint, ⟨"::1".toList, [0, 0, 0, 0, 0, 0, 0, 1], by decide, by decide⟩, by decide⟩

end LoginGate.Telemetry
