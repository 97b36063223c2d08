import AttrBinder.Text.Intervals
import AttrBinder.Text.Wide

/-!
Upper and lower case of a text, with the mappings that change its length (one sharp s gives two
letters). Runs of letters that move by one distance share a row.
-/

namespace AttrBinder.Text

/-- The code points `first, first + step, … , last` all move by `shift`. -/
structure CaseRun where
  first : Nat
  last : Nat
  step : Nat
  shift : Int

def CaseRun.covers (r : CaseRun) (n : Nat) : Bool :=
  r.first ≤ n && n ≤ r.last && (n - r.first) % r.step == 0

/-- The runs that numbers give, four each: how far the first code point lies behind the last one of the
run before, the number of steps, their length, and twice how far the letters move up, or one less than
twice how far they move down. -/
def CaseRun.ofNumbers (behind : Nat) : List Nat → List CaseRun
  | gap :: count :: step :: far :: more =>
    let first := behind + gap
    let last := first + count * step
    ⟨first, last, step, if far % 2 == 0 then (far / 2 : Nat) else -((far / 2 + 1 : Nat) : Int)⟩ ::
      ofNumbers last more
  | _ => []

/-- The characters that numbers give with two or three letters each, the third one zero if there is
none. A character is given by how far it lies behind the one before it. -/
def expansions (behind : Nat) : List Nat → List (Nat × List Nat)
  | gap :: a :: b :: c :: more =>
    (behind + gap, if c == 0 then [a, b] else [a, b, c]) :: expansions (behind + gap) more
  | _ => []

def upperRuns : List CaseRun := CaseRun.ofNumbers 0 <| Packed.numbers [
  "c$#$xQN9$a&%)$a&$#$d%%:%$%#$gN%%%$&*%$&9%$&%%$$#$i_$#$fA&$%$&#$$'#$$)#$$&#$c1'#$$$#$e='#$d7&%%$&#",
  "$$(#$$&#$$'$%$&#$$'#$$%#$aW)#$$$#$&%#$$$#$&%#$$$#$&%*%$$#$bH%+%$&#$$$#$&%#$$'6%$'+%$,#$$&$$miA%#$",
  "$('%$$#$mh=$#$mh7$#$mh;$#$f_$#$fV%$$fT%#$fN%#$fP$#$ayfI'#$fT$#$ayfA%#$fX%#$aye7$#$ayf3%#$f]$#$g$",
  "$#$ayf3$#$mg)$#$ayf-&#$g$%#$mg5$#$g(&#$g*+#$mfE&#$g2%#$ayf1$#$g2'#$aye;$#$g2$#$b4$$$g0$#$b8)#$g4",
  ".#$aydM$#$aydGbR#$bSO$%$'#$$'%$d7R#$a2$%$a0%3$a&$#$a$$+$a&$#$b*$$$b(%#$b&$#$aX'#$aD$#$aR$#$2%.%$",
  "$#$bV$#$bJ$#$1$#$cV%#$c.&#$$&#$$XB$a&$2$bJ%3%$-=%$&)%$$#$@%R%$UH$aFau-M$cs3&%$cs3lL($2ai6#$gs>$#$",
  "gs<$#$gs*$$$gs&$#$gs($#$grV$#$gq$$#$apnCd$#$appO'#$ds+4#$apr?aZa1%$)#$a])R%$$*$3,($3.*$3,*$3,($3/",
  "&%3,*$3,$$b?$&$bW$$$c7$$$d3$$$cO$$$d/V$$30#$hx,5$$32$$3'#$1f$#$ZE2$B(#$$n'<$Vad&R$aF%#$$'#$mhT$#$",
  "mhN%%%$*#$$&#$$.T%$,$%$(#$$0H$hz*%#$hz*)#$hz*scG9%$70%$b3)%$'A%$.$%$&'%$(#$$($%$$#$aG&,%$/*%$($%$",
  "*#$$)$%$@#$$n8#$acZ@a6$atz>me5<$a&tAJ$a6b4F$a6bG-$a4%1$a4%)$a4%$$a4ab[U$b*aw9B$a&mmTB$a&sj2D$a*"]

def upperExpansions : List (Nat × List Nat) := expansions 0 <| Packed.numbers [
  "cNa:a:#aQkKa5#bRa1m##f[o8l[lTCoDl[lTgVv0vM#cyZa/mH#$a;l[#$a>l^#$a@l^#$a(kM#c%oDm*#%oDm*lS%oDm*lT%",
  "oDm*mYMdx;o8#$dx<o8#$dx=o8#$dx>o8#$dx?o8#$dx@o8#$dxAo8#$dxBo8#$dx;o8#$dx<o8#$dx=o8#$dx>o8#$dx?o8#",
  "$dx@o8#$dxAo8#$dxBo8#$dx[o8#$dx]o8#$dx^o8#$dx_o8#$dy#o8#$dy$o8#$dy%o8#$dy&o8#$dx[o8#$dx]o8#$dx^o",
  "8#$dx_o8#$dy#o8#$dy$o8#$dy%o8#$dy&o8#$dz#o8#$dz$o8#$dz%o8#$dz&o8#$dz'o8#$dz(o8#$dz)o8#$dz*o8#$dz#",
  "o8#$dz$o8#$dz%o8#$dz&o8#$dz'o8#$dz(o8#$dz)o8#$dz*o8#&e`9o8#$o0o8#$o%o8#%o0mY#$o0mYo8(o0o8#)e`Io8#",
  "$o6o8#$o(o8#%o6mY#$o6mYo8(o6o8#)o8l[lS$o8l[lT&o8mY#$o8l[mY.oDl[lS$oDl[lT$o@m*#%oDmY#$oDl[mY.ea=o",
  "8#$oHo8#$o.o8#%oHmY#$oHmYo8(oHo8#agp?a-a-#$a-a0#$a-a3#$a-a-a0$a-a-a3$a:a;#$a:a;#0v?vA#$v?v0#$v?v",
  "6#$vIvA#$v?v8#"]

def lowerRuns : List CaseRun := CaseRun.ofNumbers 0 <| Packed.numbers [
  "c/9$a'%)$a'E:%%'%%%&*%%&9%%%#$d$$%%%'#$g#$$%%%#$fW$#$%%$$fU$#$%&#$bI$#$fO$#$fQ$#$%%#$fU$#$fY%#$g%",
  "$#$f^$#$%'#$g%$#$g)%#$g+$%%%%#$g3$#$%%#$g3&#$%%#$g3$#$%%$$g1$$%%%#$g5$#$%'#$%+#$'$#$%%#$'$#$%%#$'",
  "$+%%&+%%&#$'$$%%%#$c0$#$aV$6%%%#$d6%+%%+#$mhU$#$%%#$e<$#$mhO&#$%%#$f@$#$b5$#$b9$'%%dU$%%'#$%,#$cW",
  "*#$a3%%$a1%#$b+%$$b)%3$a'%+$a'G#$3,.%%)#$a_&#$%%#$0$#$%&%$d6$2$bK$B$a'T3%%-=%%%#$A$)%%&R%%&H$aGau",
  "-H$hz+%#$hz+)#$hz+l&a6$atz?$($3aiNM$cs2&%$cs2e8a1%%-#$ijT%R%%-*$2,($2.*$2,*$2,($2/&%2,*$2<*$2,*$2",
  ",*$2,$$2$$$b>$#$4/&$bV$#$4/$$2$$$c60$$2$$$cN$#$0/$$d2$$$d.$#$4d^#$igD'#$ji<$#$je:*#$[Q2$C7#$%mJ<$",
  "WacLR$aGT#$%%#$mg($#$ds*$#$mfD&%%%%#$mh6$#$mg4$#$mh<$#$mh:%#$%&#$%,$$mi@$T%%,$%%(#$%sdE9%%70%%b3)",
  "%%'A%%.$%%%#$appN$'%%(#$%%#$aye6&$%%',%%%#$ayf2$#$ayfH$#$ayf@$#$ayf,$#$ayf2%#$aydF$#$aye:$#$aydL",
  "$#$ac[$*%%%#$aF$#$ayf0$#$apr>$$%%*#$%)$%%@#$%mt[<$a't9J$a7b4F$a7bH-$a5%1$a5%)$a5%$$a5abBU$b+awYB$",
  "a'mmTB$a'sj0D$a+"]

def lowerExpansions : List (Nat × List Nat) := [
  (304, [105, 775])]

def mapCase (expansions : List (Nat × List Nat)) (runs : List CaseRun) (c : Char) : List Char :=
  match expansions.find? (fun e => e.1 == c.toNat) with
  | some e => e.2.map Char.ofNat
  | none =>
    match runs.find? (fun r => r.covers c.toNat) with
    | some r => [Char.ofNat ((c.toNat : Int) + r.shift).toNat]
    | none => [c]

def upperChar (c : Char) : List Char :=
  if c.toNat < 128 then [c.toUpper] else mapCase upperExpansions upperRuns c

def lowerChar (c : Char) : List Char :=
  if c.toNat < 128 then [c.toLower] else mapCase lowerExpansions lowerRuns c

/-- Letters that are upper case, lower case or title case, but for those that count as marks. -/
def casedTable : Intervals := .ofGaps [
  "a(=)=R$-$'$(:$B$c2$''c?$>c/'%%&&$$)$$&$$$7$a:$b6+bQ$I,Lat6I$$($%N%&k/a=%)ai5,*N%&a'Oa&0$EaLdI%)%I",
  "%)%+$$$$$$$B%X$*$$&&$*&'%)'0(&$*d8$'$%-$$&()$$$$$$'$)'$%'(('$4C&%mHWac1b'%aN)'&%/I$$($scEQ5?b1a5$",
  ":&'$_(%$$$(>%&$mLN(,*a7ln+*/(q0=)=sTa7aGG'Ga[.$2$*$%$.$2$*$%aaVV0VavTa'mm3a'pa'a<$a.$%%$%%%'$/$$$",
  "*$a($'%+$*$?$'$($$&*$eK%<$<$B$<$B$<$B$<$B$<$+acO-$7ao,a+afS=)=)="]

/-- Marks, signs and modifiers, which may stand inside a word or at its ends. -/
def caseIgnorableTable : Intervals := .ofGaps [
  "J$)$.$F$$$a.$'$$$'$%%h:c/'%'$,%$$d.*c>$($TP$$$%$%$$O$.)-.$$F$-83$aL+$-$'D$$$A>aB.^.'$%$;;N&O$*%)+",
  "L^Z$$$'+'$&*-%0$2$^$''+$7%=$%%]$'%'%%&&$A%&$.%]$'($%'$7%9)$$^$%$$'+$*%.%A$a$$/$U$&$Z$$&(&$'*%.%@$",
  "^$%$)$(%7%?%]%''+$7%@$a/$*&$$aA$%*.,aI$%,,$$)a1%>$$$$$Z1$($%(.$G,$aM'$)$%%%<%'&3'0$%%)$2$aE$j+&oQ",
  "&@%A%A%a'%$*+$%.&$($P(V$a(%E$a^&'%,$)&cJ%%$^$$*$$$$%+)-%$J$+BT'S$$($$($K,/%C'%%$&[$$%&$$&^+%%a')a",
  "9&$0$*'$)$&%Ua&0$EaLg<$$&.&0&0&0%/(+%-$%$%(T($-$$0$30VDav2%aX&b($2$aGCR$gT$G'&(($aD)aD&qn^$tU)dA$",
  "aI'$-$$?'a7%1Ea5$:&aN&&%+$&$'$<%($bB%=50$I+<.Q&S$%'%%4$8%a))%%%%/$+$F$.$V$$&%%(%$$>$1%(%$$aK(,&b$",
  "$%$'$lmW$b>4iD3&$/3E$%$bT$*$)$.$F$$$R$P%a*$8&hD$cQ$b@(q,)$M$,iM&$%('K&'$bP%iD'f>%bD.T'b&$Y2L$%%-&",
  "T'%%%$'$-$U&G($+a%$/%W,-'%$aF&%$$%)$bK$&+8%]%&$H*&(c2+%&$$:$a;)$$'%$%c^')%$%>%a<+%$$%aQ$$$%)$$aL&",
  "%'$(d6,$%d3%$$'$b;'%%'$C-K)%'+$,)%&Q0$%fQ*$)$$a99%*$%$%b%)&$$%$*$$a/%&$$$eR%ciF,hq>(_*,'q2$a&4a'%",
  "$%jc2'$*$%azU%$'bx7Q%:i'&,3%*A'b?&ae_Z'U+$1$9($2vK*$4%*$%$(d81f+$a$'y'*aT+arF(rai<$AaGb+d#"]

def reachesCased : Wide → Bool
  | [] => false
  | p :: rest =>
    if caseIgnorableTable.contains p.toNat then reachesCased rest
    else casedTable.contains p.toNat

def upper (w : Wide) : Wide :=
  w.flatMap fun
    | .char c => (upperChar c).map .char
    | .half i => [.half i]

/-- Lower case of a text, given what stands before it in reverse: a capital sigma that ends a word
becomes the final form. -/
def lowerFrom (before : Wide) : Wide → Wide
  | [] => []
  | .half i :: rest => .half i :: lowerFrom (.half i :: before) rest
  | .char c :: rest =>
    let here :=
      if c == 'Σ' && reachesCased before && !reachesCased rest then ['ς'] else lowerChar c
    here.map .char ++ lowerFrom (.char c :: before) rest

def lower (w : Wide) : Wide :=
  lowerFrom [] w

end AttrBinder.Text
