import AttrBinder.Text.Intervals

/-!
How many terminal cells a text takes: ideographs and most pictographs take two, combining marks
and controls none, and joined pictographs as many as the first of them.
-/

namespace AttrBinder.Text

/-- Characters that take no cell: controls, combining marks, invisible format characters, skin tones
and the later letters of a Hangul syllable. The soft hyphen is a format character that takes a cell
like any other hyphen, so it is not among them. -/
def zeroWidthTable : Intervals := .ofGaps [
  "#CaFDj+aWdF*d:P$$$%$%$$[)-.$$Q83$aL+$)%%$'D$$$A>aB.^,,$;'$,$&$(N&W%(,M^Y&$5$*-%@&[$$*%%%&,$-%=$",
  "%&[$$('%%&&$A%&$.&[$$+$&$&7%9)$&[$$*%%%&*&-%A$_(&&$',$K(Z$$*$&$'*%.%@&[$$*$&$'*%.%2$/'Z%$*$&$',",
  "$-%@&a-$')$$$+5%a$$%*/+aI$%,.*a0%>$$$$$'%T7$%(.$G,$aK7:''&$&%*&'0/$$-'c1bKeT&oQ'?&@%A%a'C,$P(a]",
  "%E$a^/'/cJ(]-$@%$SQ%/7(R4I,/&A0[1S7bC&$8'$)$%&c5a'hN(;*T($-aGDax-&b8$aGCi1)aP%rpO'$-C%a7%dC$&$'",
  "$:('$a:%U5=50$I+<0O'R1G$a*1/$+%P&U$$&%%(%$$L((%c[+$%fxMa7enU$l4333c>$d,&hD$cQ$b@(a`U&$%('K&'$bP",
  "%iD'a((e4%a4)a-.T'b%&X2L$%%-'P.%$'$-$U&G13%O$/&S1+'$%aC/)$%$bH/8'Z%$*%%%&,$-%%*&(a*,$$%$$'$($$1",
  "%a95:$a87cZ*%,>%a94aQ0aL2d32d()$%%'$$$%b8*%*&$?-K*$'+$,.Q3c5+c6+$+a99$1b%)&$$%$*$$a)($%$(eR',%$",
  "$S*&(:$cgX4)2gb'5anG(_*q?$$Z*'a8$.%lc*%$'bx7Q%:i%(&9%*A'b?&ae_Z'U+$1$9($2vK*$4%*$%$(aK$bK*f2$a$",
  "'h?'d1%d&$%$*%($gY*aT*arG(rai<$AaGb+d#"]

def wideTable : Intervals := .ofGaps [
  "brCaGbuI%0%c-'&$%$hL%8%=+3/N$-)&$0$+%4%(%+$($8$*%$$'$%$*$'%?$F$$$'&$$a$&;$1$n6%V$'$mA=$a@/cE=^)2%",
  "a='aL(N$aE$a=,S$K+ra<&ZsH@jNfx/eg7hCm'-9F$6$'b@aGb**qrP'1(,do%LCaHaZej$'$*$%$dV2$@&%$1'+fGeaGa>,:",
  "dmT$c9$c-$%-aL&0O',*%1)bED/,$a-$9/N'(/4&$&&(a&$$$c*%a&0'$;5$=%0$a=a<Sa-)$&&%'&'.%*,cR/'$dNR$-$c(a",
  "W0&.&]$$'3%/'-u>aml1%aml1"]

def charCells (c : Char) : Nat :=
  if 32 ≤ c.toNat && c.toNat < 127 then 1
  else if zeroWidthTable.contains c.toNat then 0
  else if wideTable.contains c.toNat then 2
  else 1

def widenedTable : Intervals := .ofGaps [
  "F$)$(-aV$'$dzH$/$cG$9$aA)2%f8$bQ$@&$%(&c6$cV%-$,$^%&(,$%$)$'$%$$%%$&$&%+&($$$?%%$$%$$5$%$6$$'$$$%",
  "&$)$+%9$)$$$$$8$)%%$%&+$(%%%$$%$$$$$)$&$4%2$%$>%a#$fM%gN&bquS%/%f]$%,,$a-$;%$&%%N'(/6$$$$$a.$$$c*",
  "$a2%G%%*0$%'%$7$%$+%,$(&/&+&%$$$'$)$&$)$c?$$&3)&$)$%$"]

def widening : Option Char → Nat
  | some c => if widenedTable.contains c.toNat then 1 else 0
  | none => 0

/-- The cells of a text behind a character that took cells. A joiner hides the next character, and
the emoji selector can widen the last one once. -/
def cellsAfter (last : Option Char) : List Char → Nat
  | [] => 0
  | ['\u200d'] => 0
  | '\u200d' :: _ :: rest => cellsAfter last rest
  | '\ufe0f' :: rest => widening last + cellsAfter none rest
  | c :: rest => charCells c + cellsAfter (if charCells c == 0 then last else some c) rest

def cells (cs : List Char) : Nat :=
  cellsAfter none cs

/-- Characters that are not divided, and the cells that they take. -/
structure Cluster where
  chars : List Char
  cells : Nat
deriving DecidableEq, Repr, Inhabited

namespace Cluster

def extend (cs : List Char) (cells : Nat) : List Cluster → List Cluster
  | [] => [⟨cs, cells⟩]
  | k :: rest => ⟨k.chars ++ cs, k.cells + cells⟩ :: rest

/-- The clusters of a text, behind others, last first. Characters without cells belong to what is
before them, and so does what follows a joiner. -/
def ofCharsAfter (last : Option Char) (done : List Cluster) : List Char → List Cluster
  | [] => done.reverse
  | ['\u200d'] => (extend ['\u200d'] 0 done).reverse
  | '\u200d' :: c :: rest =>
    if done.isEmpty then ofCharsAfter last [⟨['\u200d'], 0⟩] (c :: rest)
    else ofCharsAfter last (extend ['\u200d', c] 0 done) rest
  | '\ufe0f' :: rest =>
    if done.isEmpty then ofCharsAfter last [⟨['\ufe0f'], 0⟩] rest
    else if widening last == 0 then ofCharsAfter last (extend ['\ufe0f'] 0 done) rest
    else ofCharsAfter none (extend ['\ufe0f'] 1 done) rest
  | c :: rest =>
    if charCells c == 0 then ofCharsAfter last (extend [c] 0 done) rest
    else ofCharsAfter (some c) (⟨[c], charCells c⟩ :: done) rest

def ofChars (cs : List Char) : List Cluster :=
  ofCharsAfter none [] cs

end Cluster

end AttrBinder.Text
