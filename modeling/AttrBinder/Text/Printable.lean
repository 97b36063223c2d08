import AttrBinder.Text.Intervals

/-!
Printable characters: all but controls, formats, surrogates, private use, unassigned code points
and separators other than the plain space.
-/

namespace AttrBinder.Text

def printableTable : Intervals := .ofGaps [
  "bL/$kY%)'*$$$7$fH$I%U%&$Z+>')49$c/$S%_%aL1_%T%2$?%$$.(B,a1$bL$+%%%9$*$$&'%,%%%'+$'%$(%<%&$)'%%9$*",
  "$%$%$%%$$('%%&&$*'$$*4-&$,$&$9$*$%$(%-$&$&%$2'%/**$&$+%%%9$*$%$(%,%%%&*&'%$(%5-%$)&&$'&%$$$%&%&&&",
  "/'(&&$'%$)$18(0$&$:$3%,$&$'*%$&%$%'%-*9$&$:$-$(%,$&$'*%)%$'%-$%00$&$V$&$)'3%=$&$5&;$,$$%*&$')$$$+",
  ")-%&/^'@H%$$$($;$$$:%($$$)%-%'Ca/$G'J$G$2$0Hc5$$($%f4$'%*$$$'%L$'%D$'%*$$$'%2$]$'%a*%C&=)a=%)%jK$",
  "?&a@*9,;,7/0$&$%/aE%-)-)1$.)a@*N(a--B$/'/'$&M%(.O'=).&a%%a($@%.)-)1%BTa4&R$a[+a#&2&a#*N%.+N(hY%)%",
  "I%)%+$$$$$$$B%X$2$1%)$6%&$,4;+R4%%>$0&D2D2b7'k&<.8ac/%C$eT(P$$($%[*%1;,*$*$*$*$*$*$*$*$b)E=$a@/cE",
  "=/(a&$a=%aN(N$aE$a;/R$rb0&Z,eS7c'+c:(%$$$(;_&-)[+a-+/)a[.A&a5$.'D$Z,1%-%aN;?-)%)%),*$*$a#'b)%-)fx",
  "//:'TeeWf)%aQI*/((=$($$$%$%$b(3g<%Y*$CM)V$6$''($b2'c-&)%)%)%&&*$*0%%/$=$6$%$2%1Eb&(&'P&a?$0&$RQb-",
  "@&T2?'G,A(N(A$H'1MbI%-)G'G'K+W./$2$*$%$.$2$*$%a*e.,9-+;)$M$,a,)%$$O$%&$%:$a/+,S6$%(D&>($a'['7%U$%",
  "(+$&$@%&'-*,*a'CJ'/,Y&@%>(=*'/*a7a0ZV0V*Q+-dYB$M$&%%a5K+M9=I?7:,a5'G,a%$(0<*-)X$5+J,aG$7.5$Oa(*$$",
  "$'$2$.)_(-)'$+%%%9$*$%$($-%%%&%$)$(*%*&(b6aC$(Aa/+-bQY%IEa,.-)06^)-Y>%2':c(a#aKa:/+%$%+$%$A$%%/,-",
  "a-+%Q%.>a/+a:0a0d:,$P$1-@&C%9$1a0*$%$O&$$%$,+-))$%$H$%$)*-e-<c&$2U0o:aMaV$(.c3ap[aJ0qVbm@iNehXi@*",
  "B$-'a8$-)A%)-a---$*$8(6k?aBaLa2']*4a'(.%1cu3+tIM,emZ'$*$%$dVP&4'+fGak?aR(0&,*-%'bx;Q%:,a[a#d)-J%a",
  "1+aW8a-bE7/a>,<b2a<$a.$%%$%%%'$/$$$*$a($'%+$*$?$'$($$&*$eK%dW%kM2($2r;BcP*$4%*$%$(cDP&1%-'%e7B4^(",
  "$tS*$'$%$2$c4%3La3'-'%m(a+a3a$c1'$>$%$$%$$-$'$$$$)$'$$$$$$&$%$$%$$$$$$$$$$%$$%'$*$'$'$$$-$4(&$($4",
  "W%dAO'aK/2%2$2$H-bY[@0O',*%1)bEp;(3&0&a[/a@*/'$2/'[+-)K+A%%a5eK/1%(&(&*,@&.()--)++*,b>$ZH-q-zj#Cb",
  "o0*cM%co%1dpDaxNi%y)ca6pjbXd#"]

def isPrintable (c : Char) : Bool :=
  if c.toNat < 128 then 32 ≤ c.toNat && c.toNat < 127 else printableTable.contains c.toNat

end AttrBinder.Text
