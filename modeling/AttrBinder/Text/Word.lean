import AttrBinder.Text.Intervals

/-!
Letters, digits and the characters of identifiers. The tables start at code point 128; below it
the classes are the familiar ones and are written out.
-/

namespace AttrBinder.Text

def alphanumericTable : Intervals := .ofGaps [
  "bU$*%$$&%$&$:$B$gI'/1(*$$$b,($%%'$$)$$&$$$7$a:$b6+bQ$I%$)La.>''PN8-'%$aJ$$2%*2%$3$$A@a@.$1N,%'$(9",
  "'$,$&$:<*.(;$)4M^Y&$5$*-'-$3'+%%%9$*$$&'&$3$0%$&'/%)%$+)'%%9$*$%$%$%B'$$*-%&3,$&$9$*$%$(&$5$2%'-,",
  "$.+%%%9$*$%$(&$A%$&'-$*.$$)&&$'&%$$$%&%&&&/9$805+$&$:$3&$=&%$%%'-+*$$'+$&$:$-$(&$B%$%'-$%4,$&$L%$",
  "3$(&$-'6$)(5&;$,$$%*B-4S$%/*,-J%$$$($;$$$-$%,$%($$,-%'C$B7/+$G>(aZN7.))''&$&%*&'0/$$-)I$$($%N$eD$",
  "'%*$$$'%L$'%D$'%*$$$'%2$]$'%a*17&33a=%)&j7%4$=(a2&.*5061510$&2WF$'$&-)-9-)a@*(%E$$(a--BJK%(.O'=).",
  "H:,XN-)-0$aDR4+&-LA0[=G?-&T%,*N%&L'$)$%&$(c/a'dI%)%I%)%+$$$$$$$B%X$*$$&&$*&'%)'0(&$*aZ%%)(.)0aL$'",
  "$%-$$&()$$$$$$'$.%'(('$$^l)a#a59jAArWcT)'&%,$%I$$($%[*$3:,*$*$*$*$*$*$*$*a7$gT&<,*(%('a=)&$aA$'(N",
  "$aE&'-CS3C-A+$2C-J2e7daWa'mr4a*Q%d@&?7R3B%a7J,%aN%a'(%$$$(;3$&$'$:0)-W1U?-;)&$$%$I-:<@*R?.)($<$L:",
  "&$+'-):&$&U$$&%%(%$$$;&%.*&/)%)%),*$*$N$1)aZ0-)fx//:'TeeWf)%aQI*/(($$-$0$($$$%$%$aSDf&5a'%YK/a[($",
  "b26-*=)=.a@&)%)%)%&F/$=$6$%$2%1Eb&/P/]4%d'@&T3>'G,A(I-A%G'+$(MbI%-)G'G'K+W/.$2$*$%$.$2$*$%a*e.,9-",
  "+;)$M$,a,)%$$O$%&$%:%B%I+,S6$%(D'=a-['7%R2'$&$@-,:B$CC+$?)(3Y-9%>(=:*a7a0ZV0V*M/-dYB$M)%a5K+9.'>5",
  "Q?7:/X=A$%%$0PC<*-,G2-'$%$+F&$/S1'..$$'7.5$<a;*$$$'$2$-*R4-.+%%%9$*$%$(&$5$/(bIX5'(-(&AS7%$$+-bQR",
  "L'GS7$.-IN0$*-Y>8/'*c(Oa[a:/+%$%+$%$;2$$$1-a-+%J3$$$?$-K*$8$.Q6$5a0d:,$H4$2@(AaW*$%$I8$,-))$%$C1$",
  "*-e-6c,$28No9aMaV4c3ap[aH2qVbm@iNehXi@*B$-)a6$-)A5S3'/-$*$8(6k?a>aPa2($a)0a'%$$?cu3+tIM,emZ'$*$%$",
  "dVP&4'+fGak?aR(0&,*-cn%7aS<b2a<$a.$%%$%%%'$/$$$*$a($'%+$*$?$'$($$&*$eK%<$<$B$<$B$<$B$<$B$<$+%UabW",
  "Bh$P-*%-'$e8A5O'-tY*$'$%$2$c4%,Sa+*$'-m._$&$'a3P$2c1'$>$%$$%$$-$'$$$$)$'$$$$$$&$%$$%$$$$$$$$$$%$$",
  "%'$*$'$'$$$-$4(&$($4iK0as>-q-zj#Cbo0*cM%co%1dpDaxNi%y)ca6"]

def identifierStartTable : Intervals := .ofGaps [
  "bU$-$'$(:$B$gI'/1(*$$$b,($%&&$$)$$&$$$7$a:$b6+bQ$I%$)La.>''PNF%$aJ$$2%*%-&%$3$$A@a@.$;D,%'$(9'$,$",
  "&$:<*.(;$)4M^Y&$5$*-23'+%%%9$*$$&'&$3$0%$&1%-$+)'%%9$*$%$%$%B'$$6&3,$&$9$*$%$(&$5$2%:$.+%%%9$*$%$",
  "(&$A%$&2$4$$)&&$'&%$$$%&%&&&/9$W+$&$:$3&$=&%$%%A$'+$&$:$-$(&$B%$%2%4,$&$L%$3$(&+&;)(5&;$,$$%*^S$$",
  "0*^%$$$($;$$$-$$-$%($$8'C$a&+$G>(aZN7$3)''&$&%*&'0/$4I$$($%N$eD$'%*$$$'%L$'%D$'%*$$$'%2$]$'%a*H33",
  "a=%)&j7%4$=(a2&.*5061510$&2WF$'$a*a@*L$$(a--BTA%(.O'=Y:,Xa9$aDR4+YA0%-O=GL&-G%,*N%&L'$)$%&$(c/a'd",
  "I%)%I%)%+$$$$$$$B%X$*$$&&$*&'%)'0(&$*a[$0$30aL$'$%-$$%))$$$$$$3%'(('$4LaqJcT)'&%/I$$($%[*$3:,*$*$",
  "*$*$*$*$*$*i-&<,*(%('a=)&$aA$'(N$aE4CS3hCdaWa'mr4a*Q%d@&3-%7R3B%a7J,%aN%a'(%$$$(;3$&$'$:@W1Ua%)&$",
  "$%.?-:<@*R?$3($--($L:&$+7:&$&U$$&%%(%$$$;&%.*&/)%)%),*$*$N$1)aZ@fx//:'TeeWf)%aQI*/(($$-$0$($$$%$%",
  "$aSDb6)cI5a'%YK-a_$$$&$$$$$$$$b)G=)=.[%B&)%)%)%&F/$=$6$%$2%1Eb&a,Xd>@&TRC0A(I-A%G'+$(MbI5G'G'K+W/",
  ".$2$*$%$.$2$*$%a*e.,9-+;)$M$,a,)%$$O$%&$%:-:,Ba(6$%-9-=a-[)%a'$2'$&$@M@&@F+$?>Y-9-605aUa0ZV0V0GeS",
  "M)%a5@-$+9M5Q8>:/X]%%$0PC<=G@$%$+F&$/S1'8$$$F5$<a;*$$$'$2$-*RI+%%%9$*$%$(&$5$/(bIX5'7&AS7%$$c'RL'",
  "GS7$_N0$a.>H*c(Oa[a'B+%$%+$%$;2$$$aE+%J3$$$?$-K*$8$.Q6$5a0d:,$H4$TAaW*$%$I8$<)$%$C1$e>6c,$a6o9aMa",
  "V4c3ap[aH2qVbm@iNehXi@*B4a64A5S3'B8(6k?a'b+a2($a)0a'%$$?cu3+tIM,emZ'$*$%$dVP&4'+fGak?aR(0&,*-crUa",
  "<$a.$%%$%%%'$/$$$*$a($'%+$*$?$'$($$&*$eK%<$<$B$<$B$<$B$<$B$<$+acOBh$P-*3$e8A5Ou+*$'$%$2$c4_a+*$t'",
  "'$>$%$$%$$-$'$$$$)$'$$$$$$&$%$$%$$$$$$$$$$%$$%'$*$'$'$$$-$4(&$($4bsKzj#Cbo0*cM%co%1dpDaxNi%y)ca6"]

def identifierContinueTable : Intervals := .ofGaps [
  "bU$-$$$%$(:$B$gI'/1(*$$$4a]$%&&$$)($$$7$a:$b6$(%bQ$I%$)L+P$$$%$%$$+>''@.(a1'aM$+%-$6%$3_%aL1Y'$%$",
  "%Q5?'.(;$),a1$b,%-$6$+%%%9$*$$&'%,%%%'+$'%$(%/-$$$%&$)'%%9$*$%$%$%%$$('%%&&$*'$$*3.&$,$&$9$*$%$(%",
  "-$&$&%$2'%-,*$&$+%%%9$*$%$(%,%%%&*&'%$(%-$$3%$)&&$'&%$$$%&%&&&/'(&&$'%$)$1-30$&$:$3%,$&$'*%$&%$%'",
  "%-3'$+$&$:$-$(%,$&$'*%)%$'%-$%00$&$V$&$(('*(%--)$&$5&;$,$$%*&$')$$$+)-%%0^(2$-J%$$$($;$$$:%($$$)%",
  "-%'C$:%)-.$$$$$'-$G'7$5$G,$]a1)a5%I$$($%N$eD$'%*$$$'%L$'%D$'%*$$$'%2$]$'%a*%&,,133a=%)&j7%4$=(a2&",
  ".*9,9.7/0$&$%/a;&$'%%-D&$.)a@*N(a--B$/'/-K%(.O'=).H?'a&$@%.)-0$+1$3Ta4&-4,/a[/[+-&T%,*N%&3&$J(hY%",
  ")%I%)%+$$$$$$$B%X$*$$&&$*&'%)'0(&$*a)%6$?$0$30V0'$&/4$'$%-$$%))$$$$$$3%'(('$4LaqJcT),/I$$($%[*$2;",
  ",*$*$*$*$*$*$*$*$ChH&<2$(%('a=%%%&$aA$'(N$aE4CS3hCdaWa'mr4a*Q%d@&?7S'-$aZH,%aN%a'(%$$$(;Y'$6W/a--",
  "-);&$$T%G/@&a(1.)B$Z,1%-):&a0;&%3%(-)%)%),*$*$N$1)b&$%%-)fx//:'TeeWf)%aQI*/((/$0$($$$%$%$aSDb6)cI",
  "5a'%YK-)333&%;&D$$$&$$$$$$$$b)6-*='$$=.a@&)%)%)%&F/$=$6$%$2%1Eb&a,Xb3$b-@&T2$BC0A(N(A%G'+$(MbI%-)",
  "G'G'K+W/.$2$*$%$.$2$*$%a*e.,9-+;)$M$,a,)%$$O$%&$%:-:,Ba(6$%-9-=a-[)%a''$%(+$&$@%&'$C@&@F+$A<Y-9-6",
  "05aUa0ZV0V0K+-e=M$%&%a5@-$+DB9M8>:,a.B3,a#*$0<*-)X$-''+G%$,a,''$0$$F5$H)$a(*$$$'$2$-*_(-)'$+%%%9$",
  "*$%$($-%%%&%$)$(*%*&(b6a2(-''Aa-$$+-bQY%,:)Ea(&$.-I]*-Y>%2'-)*c(_aLa18+%$%+$%$A$%%,/-a-+%Q%+$%>a&",
  "+$+a1&$5a0d:,$P$,2-;A%9$1a0*$%$O&$$%$,+-))$%$H$%$)*-e-:c($a6o9aMaV4c3ap[aH2qVbm@iNehXi@*B$-)a6$-)",
  "A%(.Z,'/-,8(6k?a'b+a2']*4a'%$%.%1cu3+tIM,emZ'$*$%$dVP&4'+fGak?aR(0&,*-&%bx<Q%:i%(&)++%*A'b?&g:a<$",
  "a.$%%$%%%'$/$$$*$a($'%+$*$?$'$($$&*$eK%<$<$B$<$B$<$B$<$B$<$+%UhCZ'U+$1$9($2r;BcP*$4%*$%$(cDP&1%-'",
  "$e8B4^tY*$'$%$2$c4.*La3'-sU'$>$%$$%$$-$'$$$$)$'$$$$$$&$%$$%$$$$$$$$$$%$$%'$*$'$'$$$-$4(&$($4bb7-q",
  "-zj#Cbo0*cM%co%1dpDaxNi%y)ca6pjbXd#"]

def isAsciiWord (c : Char) : Bool :=
  c.isAlphanum || c == '_'

def isWord (c : Char) : Bool :=
  if c.toNat < 128 then isAsciiWord c else alphanumericTable.contains c.toNat

def isIdentifierStart (c : Char) : Bool :=
  if c.toNat < 128 then c.isAlpha || c == '_' else identifierStartTable.contains c.toNat

def isIdentifierContinue (c : Char) : Bool :=
  if c.toNat < 128 then isAsciiWord c else identifierContinueTable.contains c.toNat

def isIdentifier (s : String) : Bool :=
  match s.toList with
  | [] => false
  | c :: rest => isIdentifierStart c && rest.all isIdentifierContinue

end AttrBinder.Text
