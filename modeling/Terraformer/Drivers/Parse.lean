import Terraformer.Text.Lines
import Terraformer.Device.Config
import Terraformer.Drivers.Accepted

/-!
# Parsing static routes

`parse_static_routes` reads the `ip route` lines of the running configuration.  On lines the
device prints, it finds destination, mask and next hop of each, and keeps the line itself
(`parseStaticRoutes_joinLines`).
-/

namespace Terraformer

open Text UnicodeDatabase

section

variable [UnicodeDatabase]

/-- `^ip route (?P<dest>…) (?P<mask>…) (?P<next_hop>\S+)`. -/
def staticRoutePattern : Pattern :=
  .seq (.literal "ip route ") (.seq (.group "dest" ipv4Pattern) (.seq (.literal " ")
    (.seq (.group "mask" ipv4Pattern) (.seq (.literal " ")
      (.group "next_hop" (.plus (.char fun c => !isSpace c)))))))

/-- The facts of one line, when it is a plain global route. -/
def parseStaticRoute (raw : String) : Option StaticRouteFacts :=
  let line := strip raw
  (staticRoutePattern.match line).map fun found =>
    { destination := (Pattern.captured found "dest").getD ""
      mask := (Pattern.captured found "mask").getD ""
      nextHop := (Pattern.captured found "next_hop").getD ""
      raw := line }

/-- `parse_static_routes`. -/
def parseStaticRoutes (output : String) : List StaticRouteFacts :=
  (splitlines output).filterMap parseStaticRoute

/-! ## Lines the device prints -/

/-- The line of a route as the device prints it. -/
def routeText (destination mask : Ipv4) (nextHop : String) (options : List String) : String :=
  join ("ip" :: "route" :: destination.text :: mask.text :: nextHop :: options)

/-- The line of a route with its options. -/
def routeLine (route : RouteKey × List String) : String :=
  routeText route.1.destination route.1.mask route.1.nextHop route.2

/-- The facts of a route with its options. -/
def routeFacts (route : RouteKey × List String) : StaticRouteFacts where
  destination := route.1.destination.text
  mask := route.1.mask.text
  nextHop := route.1.nextHop
  raw := routeLine route

/-- A blank is no digit. -/
lemma not_digit_of_not_isDigit {c : Char} (hascii : c.toNat < 128) (h : c.isDigit = false) :
    (decimal c).isSome = false := by
  rw [decimal_ascii c hascii, h]
  rfl

/-- One to three ASCII digits, followed by no digit, are matched as a whole. -/
lemma prefers_octet {w rest : List Char} (hw : ∀ c ∈ w, c.isDigit = true) (h1 : 1 ≤ w.length)
    (h3 : w.length ≤ 3) (hrest : ∀ c ∈ rest.head?, (decimal c).isSome = false) :
    (Pattern.between digit 1 3).Prefers (w ++ rest) [] rest := by
  refine Pattern.prefers_between_char (fun c hc => ?_) h1 h3 hrest
  have hd := hw c hc
  rw [decimal_ascii c (by rw [isDigit_iff] at hd; omega), hd]
  rfl

/-- Four such groups with dots between, followed by no digit, are matched as a whole. -/
lemma prefers_dotted {w x y z rest : List Char}
    (h : ∀ u ∈ [w, x, y, z], (∀ c ∈ u, c.isDigit = true) ∧ 1 ≤ u.length ∧ u.length ≤ 3)
    (hrest : ∀ c ∈ rest.head?, (decimal c).isSome = false) :
    ipv4Pattern.Prefers (w ++ '.' :: (x ++ '.' :: (y ++ '.' :: (z ++ rest)))) [] rest := by
  have hdot : ∀ l : List Char, ∀ c ∈ ('.' :: l).head?, (decimal c).isSome = false := by
    intro l c hc
    obtain rfl : '.' = c := by simpa using hc
    exact not_digit_of_not_isDigit (by decide) (by decide)
  have hgroup : ∀ u ∈ [w, x, y, z], ∀ l : List Char,
      (∀ c ∈ l.head?, (decimal c).isSome = false) →
      (Pattern.seq (.literal ".") (.between digit 1 3)).Prefers ('.' :: (u ++ l)) [] l := by
    intro u hu l hl
    obtain ⟨hd, h1, h3⟩ := h u hu
    exact Pattern.prefers_seq (Pattern.prefers_literal ".") (prefers_octet hd h1 h3 hl)
  have hthree : (Pattern.times (.seq (.literal ".") (.between digit 1 3)) 3).Prefers
      ('.' :: (x ++ '.' :: (y ++ '.' :: (z ++ rest)))) [] rest :=
    Pattern.prefers_seq (hgroup x (by simp) _ (hdot _))
      (Pattern.prefers_seq (hgroup y (by simp) _ (hdot _))
        (Pattern.prefers_seq (hgroup z (by simp) _ hrest) Pattern.prefers_empty))
  obtain ⟨hd, h1, h3⟩ := h w (by simp)
  exact Pattern.prefers_seq (prefers_octet hd h1 h3 (hdot _)) hthree

/-- A dotted address, followed by no digit, is matched as a whole. -/
lemma prefers_ipv4Pattern (n : Ipv4) {rest : List Char}
    (hrest : ∀ c ∈ rest.head?, (decimal c).isSome = false) :
    ipv4Pattern.Prefers (n.text.toList ++ rest) [] rest := by
  have hoctets : ∀ u ∈ n.octets.map (Nat.toDigits 10),
      (∀ c ∈ u, c.isDigit = true) ∧ 1 ≤ u.length ∧ u.length ≤ 3 := by
    intro u hu
    obtain ⟨k, hk, rfl⟩ := List.mem_map.mp hu
    exact ⟨fun c hc => Nat.isDigit_of_mem_toDigits (by decide) (by decide) hc,
      Nat.length_toDigits_pos, (Ipv4.octet_toDigits (Ipv4.octets_le n k hk)).2⟩
  have hdotted := prefers_dotted hoctets hrest
  rw [Ipv4.toList_text]
  simpa [Ipv4.octets, List.intercalate_cons_cons] using hdotted

omit [UnicodeDatabase] in
/-- A printed route, in the form the driver adds one. -/
lemma routeText_eq_append (destination mask : Ipv4) (nextHop : String) (options : List String) :
    routeText destination mask nextHop options =
      "ip route " ++ destination.text ++ " " ++ mask.text ++ " " ++ join (nextHop :: options) := by
  have hip : ∀ t, "ip" ++ " " ++ ("route" ++ " " ++ t) = "ip route " ++ t := fun t => by
    rw [← String.append_assoc]
    rfl
  rw [routeText, join_cons_cons, join_cons_cons, join_cons_cons, join_cons_cons, hip]
  simp only [String.append_assoc]

omit [UnicodeDatabase] in
/-- A printed route, piece by piece. -/
lemma routeText_eq (destination mask : Ipv4) (nextHop : String) (options : List String) :
    ∃ tail, (tail = "" ∨ ∃ rest, tail = " " ++ rest) ∧
      routeText destination mask nextHop options =
        "ip route " ++ destination.text ++ " " ++ mask.text ++ " " ++ nextHop ++ tail := by
  rw [routeText_eq_append]
  cases options with
  | nil => exact ⟨"", Or.inl rfl, by rw [join_singleton, String.append_empty]⟩
  | cons option options =>
    refine ⟨" " ++ join (option :: options), Or.inr ⟨_, rfl⟩, ?_⟩
    rw [join_cons_cons]
    simp only [String.append_assoc]

omit [UnicodeDatabase] in
/-- The words of a printed route. -/
lemma isWord_of_mem_routeText (destination mask : Ipv4) {nextHop : String}
    {options : List String} (hnext : IsWord nextHop) (hoptions : ∀ w ∈ options, IsWord w) :
    ∀ w ∈ "ip" :: "route" :: destination.text :: mask.text :: nextHop :: options, IsWord w := by
  intro w hw
  simp only [List.mem_cons] at hw
  rcases hw with rfl | rfl | rfl | rfl | rfl | hw
  · decide
  · decide
  · exact Ipv4.isWord_text _
  · exact Ipv4.isWord_text _
  · exact hnext
  · exact hoptions w hw

/-- A printed route is parsed into its parts. -/
lemma parseStaticRoute_routeText (destination mask : Ipv4) {nextHop : String}
    {options : List String} (hnext : IsWord nextHop) (hoptions : ∀ w ∈ options, IsWord w) :
    parseStaticRoute (routeText destination mask nextHop options) =
      some { destination := destination.text, mask := mask.text, nextHop
             raw := routeText destination mask nextHop options } := by
  have hblank : ∀ l : List Char, ∀ c ∈ (' ' :: l).head?, (decimal c).isSome = false := by
    intro l c hc
    obtain rfl : ' ' = c := by simpa using hc
    exact not_digit_of_not_isDigit (by decide) (by decide)
  have hlit : ∀ l : List Char, (Pattern.literal " ").Prefers (' ' :: l) [] l := fun l =>
    Pattern.prefers_literal " "
  obtain ⟨tail, htail, heq⟩ := routeText_eq destination mask nextHop options
  have hend : ∀ c ∈ tail.toList.head?, (!isSpace c) = false := by
    rcases htail with rfl | ⟨rest, rfl⟩
    · simp
    · intro c hc
      obtain rfl : ' ' = c := by simpa using hc
      decide
  have hmatch : staticRoutePattern.match (routeText destination mask nextHop options) =
      some [("dest", destination.text), ("mask", mask.text), ("next_hop", nextHop)] := by
    have hnh : (Pattern.plus (.char fun c => !isSpace c)).Prefers (nextHop.toList ++ tail.toList)
        [] tail.toList := by
      refine Pattern.prefers_plus_char hnext.1 (fun c hc => ?_) hend
      rw [hnext.2 c hc]
      rfl
    have hnext := Pattern.prefers_seq (hlit _) (Pattern.prefers_group "next_hop" hnh)
    have hmask := Pattern.prefers_seq (Pattern.prefers_group "mask"
      (prefers_ipv4Pattern mask (hblank (nextHop.toList ++ tail.toList)))) hnext
    have hdest := Pattern.prefers_seq (Pattern.prefers_group "dest"
      (prefers_ipv4Pattern destination (hblank _))) (Pattern.prefers_seq (hlit _) hmask)
    have hall := Pattern.prefers_seq (Pattern.prefers_literal "ip route ") hdest
    rw [heq]
    apply Pattern.match_of_prefers
    simpa [staticRoutePattern, String.ofList_toList] using hall
  have hstrip : strip (routeText destination mask nextHop options) =
      routeText destination mask nextHop options :=
    strip_join (isWord_of_mem_routeText destination mask hnext hoptions)
  rw [parseStaticRoute, hstrip, hmatch]
  rfl

omit [UnicodeDatabase] in
/-- A printed route is not empty, and on one line. -/
lemma routeText_ne_empty_and_oneLine (destination mask : Ipv4) {nextHop : String}
    {options : List String} (hnext : IsWord nextHop) (hoptions : ∀ w ∈ options, IsWord w) :
    routeText destination mask nextHop options ≠ "" ∧
      OneLine (routeText destination mask nextHop options) := by
  have hwords := isWord_of_mem_routeText destination mask hnext hoptions
  refine ⟨fun h => ?_, oneLine_join fun w hw => (hwords w hw).oneLine⟩
  have hsplit := split_join hwords
  rw [← routeText, h] at hsplit
  cases hsplit

omit [UnicodeDatabase] in
/-- The command of a parsed route is the line it was parsed from. -/
lemma asCommand_routeFacts {route : RouteKey × List String} (hnext : IsWord route.1.nextHop)
    (hoptions : ∀ w ∈ route.2, IsWord w) : (routeFacts route).asCommand = routeLine route := by
  have hraw : (routeFacts route).raw = routeLine route := by simp only [routeFacts]
  have hne : routeLine route ≠ "" := by
    rw [routeLine]
    exact (routeText_ne_empty_and_oneLine _ _ hnext hoptions).1
  rw [StaticRouteFacts.asCommand, hraw, if_pos hne]

/-- The lines a device prints for its routes, in any order, are parsed one by one. -/
theorem parseStaticRoutes_joinLines {routes : List (RouteKey × List String)}
    (h : ∀ route ∈ routes, IsWord route.1.nextHop ∧ ∀ w ∈ route.2, IsWord w) :
    parseStaticRoutes (joinLines (routes.map routeLine)) = routes.map routeFacts := by
  have hlines : ∀ l ∈ routes.map routeLine, l ≠ "" ∧ OneLine l := by
    intro l hl
    obtain ⟨route, hroute, rfl⟩ := List.mem_map.mp hl
    exact routeText_ne_empty_and_oneLine _ _ (h route hroute).1 (h route hroute).2
  rw [parseStaticRoutes, splitlines_joinLines (fun l hl => (hlines l hl).1)
    (fun l hl => (hlines l hl).2), List.filterMap_map, ← List.filterMap_eq_map]
  refine List.filterMap_congr fun route hroute => ?_
  rw [Function.comp_apply, Function.comp_apply, routeLine, routeFacts,
    parseStaticRoute_routeText _ _ (h route hroute).1 (h route hroute).2, routeLine]

end

end Terraformer
