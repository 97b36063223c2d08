import AttrBinder.Text.Packed

/-!
Texts in normal form NFKC, in which two spellings of one identifier agree. Characters are taken
apart as far as they go, the marks behind a letter are ordered by class, and letters and marks are
composed again. The tables hold the characters of identifiers only.
-/

namespace AttrBinder.Text.Normal

/-- The numbers of a packed table, written in base 32. The last digit of each is below 32, the
others are not. -/
def figures (length : Nat) (digits : String) : List Nat :=
  ((Packed.signs 32 length digits).foldl (fun (ns, high) d =>
    if d < 32 then ((32 * high + d) :: ns, 0) else (ns, 32 * high + (d - 32))) ([], 0)).1.reverse

/-- A number that moves up by half of an even number, or down by half of what follows an odd one. -/
def moved (n far : Nat) : Nat :=
  if far % 2 == 0 then n + far / 2 else n - (far / 2 + 1)

/-! Characters that stand for others. -/

/-- Code points from `first` to `last`, with what they have in common. -/
structure Span where
  first : Nat
  last : Nat
  common : Nat

def Span.find? (n : Nat) (spans : List Span) : Option Span :=
  spans.find? fun s => s.first ≤ n && n ≤ s.last

/-- The spans that numbers give, three each: how far the first code point lies behind the span
before, how many follow it, and what they have in common. -/
def Span.ofNumbers (behind : Nat) : List Nat → List Span
  | gap :: count :: common :: more =>
    ⟨behind + gap, behind + gap + count, common⟩ :: ofNumbers (behind + gap + count) more
  | _ => []

/-- Letters and digits in another shape, which move by one distance. -/
def shapes : List Span := Span.ofNumbers 0 <| Packed.numbers [
  "dpF*icRcd7(iz*),je&$7jb>aemDa1bznZN(bki(/(bkhJ2(bueN),bukJ'(bui,&(bui0&(bui4afn0<elv<$<elv0$<elx,",
  "$<elw]$<elyX$<elyL$<em`H$<em`<$<emb8$<emb,$;emd(%<emcX$;emeT%<emeH$<emgD$<emg8$<emi4$<emi($<emk$$",
  "<emjT$<emlP$<emlD$<emn@$<emn4$<emp0$<emp$(3elpT%)elpT%;elpH+3elrP%)elrP%;elrD+3eltL%)eltL%;elt@+3",
  "elvH%)elvH%;elv<+3elxD%)elxD%;elx8/,ena>$,enaR$,enb*$,enb>$,enbRer8,eylR"]

/-- The characters that numbers give, each with those it stands for and their count in front. A
character is given by how far it lies behind the one before it. -/
def others (behind : Nat) (ns : List Nat) : List (Nat × List Nat) :=
  match ns with
  | gap :: count :: more =>
    (behind + gap, more.take count) :: others (behind + gap) (more.drop count)
  | _ => []
termination_by ns.length
decreasing_by simp only [List.length_drop, List.length_cons]; omega

def meanings : Thunk (List (Nat × List Nat)) := Thunk.mk fun _ => others 0 <| figures 14591 "
  GNwFHDdZ@]lSTUBGHG$I)^:zXMz9V=>%5C*#wPl.HschuDhFtskjqA.J&*^-,H2WNd^hOWH?4KXtuUCCd:-*av?dk8xpXa;37
  bVY,v856GK$RCxXo1spgpqk3JAjigYRq<6BS09thC1u@Q,%KIsS/NyJ34dETU;WU/3TjKx4+zM]IJ+ZtlEI4?P_jZ4ptoJ,na
  2)RJo'U1hvbIDq$C2x0t)LkoE)-pUW9=.ju=/6ErbJ*W)'KjW(PMS:mMbbAwk&Dn#dNPsAGn['lAs$2UkdEHlF;:N+VF?h$Zq
  n87FN['OxaMhF2hEvl'qHYq?/bBMe*gu%oBmNa:b,.$;CzTM`E@TG8KDUHq;9F.THbM:vpkWK$to1rT3Mn$FolQ?Uct(uIE$O
  paa7AKZBBa0_JK3l>dBNlC,8%D_8'iz&G?q3iT?dp8R0c2VKVih&LHbd^1gNI)A1[%EVe3+hZ9^6<hIESd'pE7ogL.0'`lo*Z
  u,BO<ec-hHHQPK6T0g]PKpQ[(>SHl_nd5<b&2=TIBAxCx$^wwq#l](5%KKP)JW5C[PwZvUE9?MY01w01i6Bv67pTJc-o-hkzP
  My`j%UAyWddXVZ8B<yUuD]l?&<1#tOOJzj6XP$X7gA`NhxDH-Gumm4^D*ovj(`$ipF#'KN%)ea7<_fvVtxs`[zN$HM&Zq&LwL
  F19*eydy:hIFDxC%ZDwvG?e*TfJx1DC39vv_yqE=aTm-W&R1g@P&NCj)+UV^UDG;9H6kwOHQF65z+Yu[,ApV0X#o=V&,:?%b3
  Q8AR,fqpQf^rV+I'(^dAP>A#6xm'2yB[H%9rb3CsHi4Lm;9,eJVOc`ee^.[0.$,%qJp2*aQ<D&LN%FR_Ez`AD)/cva:u51g>D
  Q'?VLq5lQhdS'FjCsl=cO./d8LBNCqjuRspCK%YTGHVLejOU[`)Fhn[Y((B[=6O+zO:sYZl`-%qMB3S2el)v8mkw;YVo;eTn6
  Qf[fp,k4[hs;vpPTyGpd0DVjP:kalOJLE2u+FFX$FU?CMF#9J>5YmdF5KNTjrKa-(D_N[A-rUhyn))(-u2E?+`BUItzboS-qZ
  L%@z^%q*9.$<)k=Ch^zx3iU)'yD2hDRtInQCiSA.U8Xm[Q;3)BOFrx:_:Q):tQjxR.,6B6H@(Kt(]Vj/Das+TVdWxRP:AG'yD
  uqv@A*Y+@HC/.DAd8aa3gIO^1qG7eHkZmBRh_mGurFJ]fOwEZba6`Rc=AJ20sbc3DHU4[,mFM+r@V#3=O2u]#<BJwMsj%y/$P
  tv]UU;BJ4:IF&?p]O?t:1'd3*uTFtLp=?'NHb05$WQfd3eT0fpFDFw-@+?hV%+:v?X0P)?r,0HNFVuf+5-X^3=lJET_x67yH^
  CW?'GU:0.84q7lyqdq7WG`*]->c*Zwo/6[t25A7.L@-j6ssBBH[<Vu*:%+%UNlWAojQVui[5B.Y)#Xn06T7[NRmp):=Ta)j()
  &V?:OMi,*BY]Jh=rf'x%N3Fs2,wp#M4#.JOo*Qx(JPsgrg>a(kUQJzQUq$@4h[OAxV#Y@/v&7U8TqAo:]'VSVp6VoUHKiem1n
  )nUD2_O.Lo[5S88F*<6`f=o=.H&EnXvHwg8gKm^b.W1=YVk]&#f(4eJzQ[(EFlwmKU::&,qu'E$?:V8TcnjF&vQ%2fqw&zobs
  >@nyrG%zKYsA[eTdz`[jz9FV.BZa7<]Gy6S/kp&zu5jUmn#i)o*<&6le95u&iYN4`0m@eu,/CN'nV)5wZS+pbDJu>TcQgp%/r
  FgUR%-Kj0Hk>7l29<#-Fl8<vwr9+@9yaD#PfF8lq=?4^=:-EdP#gjA;(Tus%]LrKI:t?G+7)SNgZC<E8>wEQ)FJV2UCQpLpM^
  6k`bs^$[e(N2P($Wcz<)2H^?BGnET:eHom[Ws>;%a.iDv=D&6IjC5vccbwEM61EKVVOS(929)`:wy0Jw$S0,hxp<[Y5(/'X)*
  gZoSs8dTaCLtCGp:`NA,-22od$Iy1s&/s6dj/UC9j[aORKRCi3nj=6#uaz0-^,i$)+'er:axiy[DDK+)hdKGh`_E/]Xx=bV_:
  c4OgynqnH8ZG-i:og;&;shcq'u]a7JaS3N7=]Bs)fx?/v6ITR[*-n^R-rtJz+e1,k@`^@+E:zlSe83='DE4T[C4jjUzS3eWX$
  _+*yqza##lk/dSYN-MGe1Rw,-/R_?2VOdaUbE]@Hx/3A(5VmYutbl`(v:&UUg8W>R<GV43dZDU_[$<-DjR*TNa$S9_G_X':&Z
  l9CAd,5zN'z=*Q1lX-JN/[9sg7Q6&K57]Fv'Xs_D`1d$DTIZ`o@Uo.2.65:TP6Hb^b(U6U-g5JLNx&q/kbQ[n]kyv7EPJ`gvK
  o$m.TT#;bkGJ)diznBfVnSsS3C1wTO/r'IM59Rb&bzk4kEz-=znCfzK#G_'loC,k]oa.[4etIUcm9e`X?'HXXLOptx)^)G&yi
  ,Ilwg+,)y%hqdT4yN]'HQ3];K-BpW])<OP[AxvS/1/uzG=K.2gmCal`OBicEMnjk]&1,7M=Kq`5(<8FX@?i8f10)G+y-g)Lbr
  6*-[e'XT9%Z:(0tpYifCx:Ub<W`hsI0(ptjzH@wqLJoc<)ju`Sb]b?cs19#Ye:aiHAzM.Er$(hv`]1Fc0$MI[;72FXzkHC@66
  /oNSE7vTvV2``-%y'$d?fSSQObE-45`kX>GkIA9>d8#Be@84Qi?9CFD=tN)=7H(y$O$DS1.C^CXnJlt)v]SVz^ILmSTPZH@d8
  n,B4KmEb_KU&2KZ4XLk+'@swK*13kzasr1nW.]J:kzbb(,jDgT8Qf*93]:Ac;mvb,]Wy.rcF]=%8Vl>%/7INFUeSC:;kZH??J
  ucNbl%hvIUJ[%W3<9=B#[=Q.k%`JZ#A`e)&-y8D1hr`:q`,i_:asf6,,+/$[E7d#bf'X>h:[hUd&HVdDtDzF(21te^KAUl+#z
  Q`t[7csblI6goHx2(0(tZyLmLH+zx@%JGw@4=DsZ[lwi+ZO8%.N/R?&ktc(GId2y55=7s-j8]TCRY6W;LK@MM?wQEP)]AvFqD
  iYyq5vGJ.$5HoDlYFTZ]jUV,h:I4+[MD.A>PnO7XqaIU<C.Jq1AEH9$iGGy2rexZI]Z;)KZxDaAPgoz(f?AiU376m47>3RQ1%
  ?Ur6^zYJ,UB9bqP;TZf>.Ck%f_;u??QE^tM?$MLcn]eT'6k6X4]mDWb;DwOGr.mbde%aADG663xfs<F+WC-T(%lCH13?m.Ol$
  %7pvu>+rDkY*H);3#R_B>yMhH`mp40Sz[kWQyQ^W^#f7fkUr$3>@LH.lvgh:&S(7UVVhrET/_NG0qLKX&2BMw0Tc2%b;vDv*l
  dT#;kX70@oCY+]&Gb>qfj*dg?,V]?uP(Y5#PtSyCHmV#'^H;EDfdMnOSZ09:,Vnqp/,l615K-anN%zLrYM:FCAfhUw9iD<CvC
  U0]8;@Mi+@)5irjLuis8ZqZ57.192llR3CV`d$';9V?<Er(B][Oi#N&OMkOE)s=$gggFVpeQTk-?8ZqfpY+N2Ymlapi5bES_)
  v'-U3<%]mUz:HdN#e5,2it&OmxI7<YD6.EL9J<8yj?'AbAcD6o'J@j)dv<;CbfLqQgRQ(cSbW0ufymQ?eT-,IjAd%yX$AOtM&
  qubxP`)V$(CTOpx0#YR=L0_d5)s6[T19i=x*x*BDRwuiGErd]q33P:vsXGSwM(1U5eEa:'M^BZKq5ncMgkH8Fx?2=X1sw<8na
  Xg8*X5o8Aa)W/X_v3dOQ<qJ4B'Y.Z]fxyh7$B/[p7:e-/'F[/9w-=RDlC]dXNZgN@IpC6*+v,ic`%Rf3d0AOVI$$jd'<f5rX3
  A8bmpEC*+V:^ec3)UU=Xi91EP@[hd<e*39/v:juIwei?5$j0WcXCu/tg['TcOL4rhGI2%@@2wVf^ex3K,(-Un1c[&?j6WPY/i
  po&:A7eWGR5R(O,88<vJH-vGEub@9@BlL-dbO&p:ko]b<%2dp_2^90>zW2%rvI'L4i3YfRHkRs04Kq?eHk=A?k`%_ul5.T;S]
  /zr#HWy5SDws+r/z2@(lh%KXDHNyFX2dx-9t_4=T$V1dQAFF]%I7g=JOvjw7O+IT&KACZt;566.Bs@a_FvYIxX&E'b`XT>K^O
  V-3kaY/7Rx$VPv_US$(^u(&CMDGki_fS3>e+P_r<ESvb;lar(D0n+B.Ukr$:nv3k/qb+FRf.Y1ObH$07.JbKhgK-(&-vg[$*E
  076crn@$)&1/,T3CgN;z=G6Y2q'cEK8>zi[CDpBUshNJ69C=2cNEtXUBACR%$^C-q3JDnX_Y0ZBXXqz?]#u2WHC`r6Y'1Bqqk
  8w79tIH_ZTvm&Sn3[gX:UNO'K/4,f`=#e8B@z]D;2:1_'yZSrEOju4zHsWF+acEPiZf_CNtZH7sI94+9h.^yLDaj3'o4A;t.p
  MueL@a5qjL/9LL.m&EAX^4+DFv='Hx^iY_u^0bL]zr85Pvz/+7a]sLA4:w9#@G`VILEx"

/-! Composed characters. -/

/-- A character that is composed of two. -/
structure Composed where
  whole : Nat
  first : Nat
  second : Nat

/-- The composed characters that numbers give, three each: how far the character and its parts have
moved since the one before. -/
def Composed.ofNumbers : Composed → List Nat → List Composed
  | c, gap :: a :: b :: more =>
    let next := ⟨c.whole + gap, moved c.first a, moved c.second b⟩
    next :: ofNumbers next more
  | _, _ => []

def compositions : Thunk (List Composed) :=
  Thunk.mk fun _ => Composed.ofNumbers ⟨0, 0, 0⟩ <| figures 3454 "
  FMfme,_]'2vCK5=Tl/Ca_>,hgZk>yB`pxP4cuiDB2Fuz9FYEgafL<x#JW)EX+>i:(`?`i1N=41z9J`qRbUgA)>$bM1rCGVCU&
  yw.cS;7<kHs1m;]3bnsfd`WJS$@_4*Pb8Et#z)-7./b,1&a^i;K'`OLl*<.I8&fVEafRz+Xgc;k?9C:T5mdx-wx-+XLcdY9>X
  yV@]=N;0Bk6CPI=pf+02-Qqx>T7p.QbN;3gm+.g8*LHCyi[:VZ?/BsAu,1ojC@&wG_+8`mP9atmfTp4;FCsY#dgRYoZ66MYtV
  rSEv+FwE,Q<B>f<8n_(o,cIGgwA6)-BRQ;)5`Tf]w-#?b?LMn1>Avc',I^j#s%VQDn[.9Qk&Mlkghqa^E1Tl$NCW</A<ECb+Z
  -_rQ$GI11nWJ,`ws%W2_Py_7Ofm#3-xpe]cY`TU=;)vkcYv?rDdKKZ<v`>m'C[Q$xo<BF#x[^7fLQupkxC:HN5r=n,RX<(Z7v
  pgm](@K,Ok]pV=MXOTFZ9&'I@3L@Spxzj&Uk#tkp]$Zho*Dpj_sk+S2550;neHkO&E$F:c+bBA.6h/Z=[*]lFK,];xeX@H1oT
  DPXt/ZwuZcpO%piktV<uoh'cu9hnoyIxrVMaiMK4?;ly1RM^)zs]W&>aoN^P7')(>sSr-h,C'Ky&sE6fqdH7`NYdba%(UV6c/
  @WQnp>e?KeFNt`p'XEuekc$@ylW,#1gSvp%aD_7vkXTb]RZ+SwD:CO3*YydkYTy6b1GP7lCHM%jJ@F.tnbm8Uxrk3;]d*9Ihy
  .PvT=<L$2/FD=E]S-t<,5ic@q1j]T`A*DAMCfLd=.PanYW#]<6Ih<6Gv`%*NgODw`t+zk#/RyMxoK.EeHA3yUzz(:z@Xc$h(y
  DOaaM2Zw86>u&JsY[_a*4DD=zss0wQXS1D-AV2;3uQ[c=28.7=-s_Y(ULr'w1jOW3hC_'OARnyP0u-AR:nE,aMyWRANshz*-J
  (1WkF=@U'uI3.Fb9Ud)7%u#bW@75b.Ma?20x#je&k;V>I42rw(5:n-I>yR3LTqd9hvoZCP#5jxKn^NZo,%GGtDv`yEg2HEmMX
  4<#)6r]d<UIAkIu%D7PVN=x(5zvTSpLdF0ok=mnSsIpXL:K],vq'Bt@mrUNJ8Aod])rMEV.9(Z:K.BrpdR=g%,08xC4%CO@R%
  HIKgV-l;9THg/b@n:40DMOO/vqS'%YyrjqNJW@uce'1Sxh/T?W;4:^+1sxX%wsk5y>iPUv[v?t-l=puQm5HVYmeU)8C`8$ijg
  Jj3z1qU4/O;/])dIu1e6Ydn<JuDN(NAl:boNu5yk-:iH[[*H_JONEtJf2'Dsn8^mt@N4f+07O,A$mMCq=8[tXr6TSZiWo/D=;
  Jru[Dr9$k1TzPUdPJMuFEvF]HvDl"

/-! Hangul syllables are composed by rule. -/

def syllables : Nat := 0xac00
def leads : Nat := 0x1100
def vowels : Nat := 0x1161
def trails : Nat := 0x11a7

def syllableApart? (n : Nat) : Option (List Nat) :=
  if syllables ≤ n && n < syllables + 11172 then
    let i := n - syllables
    some ([leads + i / 588, vowels + i % 588 / 28] ++ if i % 28 == 0 then [] else [trails + i % 28])
  else none

def syllable? (a b : Nat) : Option Nat :=
  if leads ≤ a && a < leads + 19 && vowels ≤ b && b < vowels + 21 then
    some (syllables + 588 * (a - leads) + 28 * (b - vowels))
  else if syllables ≤ a && a < syllables + 11172 && (a - syllables) % 28 == 0 &&
      trails < b && b < trails + 28 then
    some (a + (b - trails))
  else none

/-! The normal form. -/

def apart (n : Nat) : List Nat :=
  if n < 128 then [n]
  else
    match Span.find? n shapes with
    | some s => [moved n s.common]
    | none =>
      match syllableApart? n with
      | some parts => parts
      | none =>
        match compositions.get.find? (·.whole == n) with
        | some c => [c.first, c.second]
        | none => ((meanings.get.find? (·.1 == n)).map (·.2)).getD [n]

/-- Takes characters apart; no character needs more than three steps. -/
def decompose (ns : List Nat) : List Nat :=
  Nat.repeat (·.flatMap apart) 3 ns

def classes : Thunk (List Span) := Thunk.mk fun _ => Span.ofNumbers 0x300 <| figures 1483 "
  z.xpOZPiEz@dXh&I3)E2%Vh8Ag:ttQCVaWh7AIK0[aQSVW<7y.2*p#8je=2*ibIM6-E0Y54sJP&8fGGu4-G:uvD5.`WtJyl0h
  gpYtO2,:JffQBxWAC)6g@N2Nfa9rlGI3<as1g36D'1n$voiT#yRZM]g#b84[-`VEQ%xMw?z6=IF)2,3]?Ho1tqqf(c<79<ud?
  NBi,tmBp0-#RstFe<zRf=<&pwvQltG6/94vTTH9[4aYcB%0=CBbjSiOq,jB8Xz5VYl/,gQH%^w2B.BeuWk>?$YBMt]:?8ePLy
  G3f-R(<EvK5=Jc@w5#B@Aew)age?x=w?;nmxYCd)ZXU[:C3.y;I_#7X%itN1DSZk.3W5Cw9RkMpACORy:[]-1iU2U/gS7@9K=
  hj4SPN&`<5i40P$VR_5vkc=nq/1=0@l-S2zmqer_&f=1_LdYS0crhF@#]hR3H4%,>$e]QI`z1K/O.%vqM.k#J5B_%)0?CYT#:
  (S*5bXD1pS=$p(pDXnZDF.HW6)@>.g8a2RkP9sR_>eBF47Mugf-[*l-_S1ug0q`%'Xz;i_EsQ5?zn)duc2(y>uA0m#m3%p?FQ
  ^OQDF(j%/,d6*Huv[;<[;`?]w:WgH`O.=IM_@1:b.uBR%u:&DOsE#yif>lmIY@.+-NW?[8Uj9n_C;s8_5#XGjz:oR):RTI#mG
  P7c[;-=R6/lq./G=5k7HEeBlNdWbw:=Qj(qFcl$>]@%8(E)g:X/2YAR<dY907A&q<Xw"

/-- Marks of one class stand in one place of a letter; a letter has class zero. -/
def markClass (n : Nat) : Nat :=
  if n < 0x300 then 0 else ((Span.find? n classes.get).map (·.common)).getD 0

/-- Puts a mark in its place among those behind it. -/
def place (n : Nat) : List Nat → List Nat
  | [] => [n]
  | m :: ms =>
    if 0 < markClass m && markClass m < markClass n then m :: place n ms else n :: m :: ms

def composed? (a b : Nat) : Option Nat :=
  if b < 0x300 then none
  else
    (syllable? a b).or
      ((compositions.get.find? fun c => c.first == a && c.second == b).map (·.whole))

/-- Composes a letter with marks behind it. The marks that stay stand in reverse; one of the same
class keeps a later mark from the letter. -/
def compose (letter : Nat) (kept : List Nat) : List Nat → List Nat
  | [] => letter :: kept.reverse
  | n :: ns =>
    match (if kept.all (markClass · < markClass n) then composed? letter n else none) with
    | some whole => compose whole kept ns
    | none =>
      if markClass n == 0 then letter :: kept.reverse ++ compose n [] ns
      else compose letter (n :: kept) ns

end Normal

/-- The normal form of an identifier. -/
def normal (s : String) : String :=
  if s.toList.all (·.toNat < 128) then s
  else
    match (Normal.decompose (s.toList.map Char.toNat)).foldr Normal.place [] with
    | [] => ""
    | n :: ns => String.ofList ((Normal.compose n [] ns).map Char.ofNat)

end AttrBinder.Text
