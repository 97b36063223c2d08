/-!
The table of names of emoji, packed.
-/

namespace AttrBinder.Console.Emoji

def packed : String := "
  [$`wmGjSBY/#_KYoqR[j>-yne18AF$NSDLXVvuZeXB,jT9z&b0IOMPBquaS&)e726G55eQ4B=5ENr:Ryh+si//N@erX]n&779
  5oULN/^E^X</[l@bXMyxdasbcQ3lBCdGA'0FI1y'BIBxbeWpJ;gp0Eq)8G&^uTl[/8O2'/rk9^_CJlvwG>kJ`Fo.fQn21VXQ`
  ]jk:M7$-cH)n(LFU/TP^twr6gf?g$NzPK4SRVn$@Q([TN5=IsGUmtI%uW`[YPueC*=x)@9v0UbN4kyxul^Mt#5=9qC2G1^t]d
  Q*I$#q;HAz8&q675UF^Hzn(ESHD11+4v*Ji4Wh_M8`*x;=s,hfxf1AsTVijE05QF,SjvL/]H/m?m79y`3]qX%9-r&5jPVJd)J
  4&d<x5v1B1rRW?dDf5Nx#R5kcbcwjtDO-NFFA3Tk]2t8Ra7f@Pnp.U,,cU**qn[m#6j&z-&y)'i*pe`je9:RaW1EHWr=epe$r
  v>54Wm]u*59s&pJ.hF-F(Fbn/<[nd&p4>Eo6j:N<mVw=o$F#5vcT2fjN/GM-<8'pgF^'dNv&:yQ&5YXoo3H$JTZPM)#1enLwJ
  9(j@##Tbs_eDK]iF)BE;'Rz^U=s6LB829$[,Or;-<4Ls=5rc7X>[UYabTO>gwSu,9M+I_QZV=QT`*;kdS&nE.jgUt]Cuc>pj5
  UHU$PtX:TjU(W7]LePX.^$d2Q4-cTS#*<A*m3RM;TUlY/_aQ2xkkv*zmUK;$nB$N_h)Eysh1fvVuz%yPGJGSrZ4MxlkWs$7=t
  Wn/efI9z@4ZqKyd*7TaIttB(/`2DVdl*nfUy=H#F3em7j;Uvkyn8Gi2@+u6/mg3t-H4(izXH0?9H-S.WJ2GuNn&U4dMnFD/Xb
  (ZC8esp:4-kNCvo+IKe2_cNCQ+h[=zQ]L9Ydj@jd3MFH/bSGXf#wUGSBE`zPfp%>`k,*rSdb<gLJvh#fG]=4AK&OJfrP7/$B_
  8I.<l+YjDsEF$Vut%Qnjk^%S*42&;`[2W?SH/Q`T=JD.18nng)EBTo=_V6b@'biF>:p@bHcFqHxPZtREC]Us-L]gddHE:V%q`
  vo.:;Pxsn:NIpP'me-pAKUcDF&M_pJ<8ujx@I3leDydFY7_<E>)G:QOo_L0iL&MA-fed#(#a-[(=Vs&rfk+o?%,I)+Ym0ccMF
  h*25JRWrMY4E43XY7z>XQVo@/(f_)9[//T'8enu4tlYVvl7#7oj=uP3.?'w/GFVg123%pYh'uZT2=JgWR4V,%mX]<^/3dWq-o
  zj307UTYco&5k-(p12mB:M9@[la=8PH6aaxL9s%UjMNam$^vmD3<3^&diye]6vf1>s$K4nOPEj*n5sI,;DdmE5en?I,CAEVKQ
  qEX?c[RTU*rk*LpJn:%7ZDnXR)MlJS0a5B#P7n'qHNk7G'hi,Rl#RL93Qc<Y5?3QC*sP@_4)S<mb#8.='BI*TN0hy)/.T-F5I
  `ZG2dxojsz^_e7*Q#OqlZ-L[QWhOW+#YV2b+-pT(Jx@yL@kS(wo#lLP:)Q[JesGV9u$Kc+2fzA5P2mxP9_f/xwcB,B38=/ok0
  Cp^1/muz3;s'UvDm($68eLCGj#4/[FV+aoJhyhaJ<Ve<:dfJ<+y;3rBTsmz[,q]yF-0dJ@7xGAhEzook:v?lyHxN$JUU:`85Y
  3?/Zj(?MR;*dvWTGF%tkH:nBqwsIMl#cjm-WLV)0Sqp<[759,6u4&8:DPc^qT-N^e,1]FXC389YMiz0ZrD=Ouk7Y]oc_z>Mfc
  NcG,uv]2&]K8mZBYhih-T]mvqI1i`V#v%u<m'^3Z=J`04#FvPsY5E1Fib)UWYliA+4h/o@ZCh/qvTUI3`kT`=H3dgn12*>i-/
  X=Z6Qf)AhOq,)tq-JQ@jT9r6:f9<ej^C;MI#Z6zxP-.33soY+S2qyiYR?d7l<,9@p;#UQuR%*nR:cIokFRSMHk`4KKjrBhJp4
  K6#[.E37iFQolfSVjA@vbCE;<'<<s(O:w3M<^On[c-gb,P'I9n=$;q]*`2myU65=Kht$x^:C(WUcibxbU&&;MF'#uLR`(>I,+
  W8H0on?0*_/fLotTf+d.XaGTA8n=Ue<YTr0<:.$14S*c^v`f3E0VvJ5eG>(O2@KB.>:aQM9058dXw+6&%Z%pjz(DRXJiIhM_C
  (Rn-bC&rDXmxS'POOTZiuA7tY1^zRrm,DN9JqA@f'_OjG;mT&n=r.UtoiLJ>a[_Ew?-b0%DE*W[V[kbERHy(t'y>='bSmp]:`
  [G(L7]W4*)]Zud%ad8Ori`o_Z[?hv7kT`Pj)^9`wQY$3'pi#`F^DZ]RJ>s9-mvBaT'tanPO;2V_?#`l:AQU,u`+pzcB&j=PHL
  .YR)-d;ME1Vrr<`N4*qe(yw=04yg3lcGvY'76?o'CE*?8;QGWxt%A'ckF(f[5e/?Ou)'48`NlP96G>rBPXLJGDcUF/Mv+W42=
  KJEnb>QeXHZ3YQ^<ZHYx;JR@pitzCF2Qn7Kw1Uu1<e@Naf?vdJKhHim`jZpyC/f_4LFD26&(CpF'=8HUnI1C[(V69,af*Xg%n
  50^?kUKZtKCLryJAXu7&`RDs@o+b8TEuO'XWX:K6E'UYtA8pTZPf'9&VQO7-Hx8/k&FWk;2*vaH4i5=>G4qN/?T<-s>Ks&N#B
  vRsAral-:>gd+HffV'YnfZdv+Fq?avTd?yW2zE@wL^eKs<;&]9U<9Io(slW)5Yw3^OGAL+[_heC_R7[?x*vJA,>cKq&<hgE%p
  9v&f2zQf5$D(@)/EUT4k'ku'zEGvBSA*M_uf/+D1IN+N5NRwkbJVzTV0d:<)xWX7hpehn:%8?r<]iA`2c9[8)LmPjGcn.q`%@
  hjoglDZnT,RO&G0$j&eOR5M<>kL:$`g+#jR*T_&,B<pKF`DEnhnycrWnOjHGw3yb0f:yry1UMgqS.LXpvsJ5$xZI5&7@S]-c3
  K1H?O8JJU8m;?PQIapbI(^8Z)5&zV-aM>KskMNnYGiB6?h'cDm%=C%^XXftD0Oz#FT>AEz__hsL9YjiAn:JMFk(ZD65T`=T0B
  uSx[vChRsi5bGee.zPI<3N+_ET;^ki050w:8uHCS1SqaSpbj=+[>heo,%9c0RN5X>':-9=4;EkBtO&f;g'2fzlR'Sy;p`jf6S
  7b2(/yLIb5hzRu-.0w4kOX7'on0`fmclpi)PS2PU*74J0=`OAr]SU+(.T'^z0<7<sJ-Kuxs[`zN7Q1wr%YYk-B_;w^LH[>PF5
  S*.b9_dWNRLl5vzNapDtX+#qRr4]-200Or@ZSGZpD#P%Xc5p*^/Gzo0V`o2p]Ji@A@Q1tw+7)Y:R>eZ/QqtZ#lBzY9Gw`wlP,
  -RZze#^)AWf8ujBbWj;L;y7PH_hCN(b>PL(:JHAeYN*GH8p]FnU8k6qx_I?NpoglC0v'z#BWZ(5VR<TI]dqD$,N)_g26%=HaJ
  ]ku*h#I)4vFvR4/f5aaX`gT/q;L1*4wlUmCQz(GZHM])S>50Q#uIF11O__Tn8pA6w$g_9rzs=SM-Bu2wQu>bsFAl@fyKW)mF,
  hZ]M237<8BOS$kC+$n&4-M3O0dF[bUjb*VOTukuPsal/oNpfCo0bhNn*q*ItYIJyMw?,5TStkyr_zvSvC9;BwT#^C.7K)(*?_
  i*$./]L=(Q,M3Kq`equEsKUA2NZecyHMt3+/7(&CIpc<E,'kGn0X8dgE_AY.v[9QCHAsK2FVdUjYLpndcmag3_do@Xh?Xw&#:
  ja[dD'RwKz'w(*joim>[C-x_3kD.j63otk[$euz<'`J:+SW9+Px9Kyf76wTn03q7_#wSTGbm-m[nebk1/L>Is;>uM?)1F6.nU
  dlFi%AeI0:uhGX);,XM8Hm2n0,fIrR2kHeHonS%`Wo?2yAVpZ&KTpxz4VxD<2Aw;>GW5?`7Pay1`QZf`>xZk/U(x?GC_l+?dS
  wmS(Xrd:Kggo8GLeuZoOM^&U6TUs7t2#MsC[Kv*ZEY&nRb#v/CS('>s)Q2/m_V`M@/&xSdvXcOc%k6)&$g(yXj.SS^Q2jfBu4
  *LH%_e0[`0bu6)<[P1nCDW5,BnNgT?W>t_+Hg)$Lq26E7n80D7alJv=[lM>GE[(S2*`GZS^eQpg65t5Oym>_&358-.h%*yMT)
  oL.O'0Gb&AoJ_zDp;3RUT3s,n%;#yRl%Le'F&xx)4QJ;*LhD/*UswFS[3Eeaq;''at0a`G]+#Dt-JE*yQMq-x[CpU1F[NtmFC
  xjmF(.z5JQ9/^qMyYo''ysl3B4Ja`Qx,i1iUwUe?MPz`zDczc.t%Z5*Hd52WN/TA<mM8xb81pix63n5@10A[izna@rk@nGemt
  @CmWQx9=(]2Y<gUfUgVX6R*tLEiS%gQ6>egO%Bnp%4ITg=d%4V8-k9Dz*%,c]#o)u`%smysD%zWLZV6=ska:(u(2Ee]KS^ArJ
  ODL[a0p9G#dfoz85kWoHBokpKkj-G[r$vCZ-,Z,6VM_O60G;W2w?J0GO]r)pgeT)9*%8^(')^7diu/roEAn[rxEnU3C5+?h2O
  m[lnU9Y'2gs>WcAkmqo42nHvTx&:c?`2`=e2pvN[OHEx[US96vadH8r`'P*.Zcu(CysDU0s/D-mFV]KlXKLCz;#arDo+YnrGm
  YIbZtp:D`Z2g9Ra5O715Fryj@cHqC]wg#i4^qi,n;;9v==K6Eh#Z=/fhc,DbOcH&,w23;*TlBg'7Za#ChizI(LGR;z;u=YBap
  ;qp95_h:w7kNyPGEmo0kJ^`GzsxXe330U%,*Ylvr^#jB33PX%'BLCH01aS]pCe*nV<XQYf9:m,B=rFZubQgW_d*;r8qc8`/<_
  -Xks1)79lHZt6>)[fS7-qDmB_gM#S(lgD>cg<J7[oWMd6oeCQU$N3cH]p4o:K$XVGcs*i3jnAzFq`o8(?P<nNTHpa6E+0l+2B
  0f8mGS-zH=GeiPy3u3leV]ZuvD^CH'=$d=Bd`2Xn#&qkRGvmmA8)@'v>4+[1_%?'x1]mULlVl`DHdztTOdfde6g_,p.rh[U:>
  +LXJ^wW^ThHTw2sl7>wwale/RGIg=,q5E3h22@[ec-Kw?/BMFnS+N/EpO`q_`kOT-q-0r=ZFd?[Be&ClTd3Q*c:R`hyM8J^+:
  c-?m?q7i@'#=+SMBt*S1m5(oh#`R.[&m_n;q^Dbt@_^g-4Fd^$qQS$B/Z1D=*h::9NR-mNyOX*6Vxcax?npLl`^j-S&@B%8'1
  ZZSMFpOyWs2M^8t:PVuYrH(p,(I1R:E4P7zIJ+-w18&4`If:O#O;@)*7NI+5TeaG;R9oR11FY.XjaFSW<Ed(u4'?U[AC^KM=J
  H7P-is3(-H['A>4@7qvML#(J^zkX(cJXAkTvp7Hbbwz^q.`:T^Wma:'bN<E&lx2@EPl):qaY_g:>M0HSP_67Wg6fvN,Je4$`q
  G)QPNOrH</sZ7qT#KBA4p1:M?oy-dtxVLqifRi8^qAQ.y@0qk_[@T4=ud:x6,gkZd,1^uU8zCQmZ116cO&LEmYMFd+-s(Hg-O
  h<BPn#hWPXkLjYyJBZ^z55u6N8W8'V3V79d*t$SxLNi[b55$w],:s.K@LbtKy]1&_BVd=K@dW:SHT@qbF<[EqkEaM-xD_IMus
  P(>svAtPh&xXw@q_l2D9(Qglp@_g33'wS3&G1i3UJ)3q<Pz.0`iVX,dt*Hn+wI5:L@&T_A);;3;$>U[yX;%0t5O+?f,./a>S
  6#X/5r_:-I/lM@*LmdI#/`c1.4FnYi@pOyTHPgKO`SA+sh6=t);QqUARhPDC$gSmaHkOk2R5ot8e6lbb8r$<Fk2#`/kx)@MAZ
  ^qrGd-*q<UZI9M)B%O6$^LTG8E(:vVvXCz;:lb5A(o[Kw5It1,HKnlh@zZf,9'mlJjs5.E69`HmHR:%.2G`[sS]DuyV)mK;]3
  W,&Tq&g;7l&*oze&>(M34V5Bva-%5P]U7r'x-p,9ueeZwAbrB;ludN_d5Bq%DgRDI/w%m6#p&q3H'Tb'dMOKwaup9XJSa5Es*
  7sus&09.LQ/u$^xDO7`tWC]_h9.H8&HzmHSd;<fCDBrYnQml:;LLN&rJUdWW,=1(1h%%m42aM^EK@ID`]Hk'a<IT0^4)wHM:j
  ^oF0dwF&-m2$;56wYt:_^/7EzXTD`H$.Y1XFK7`wQi*%v8'quulOQNaTRN[:rgwbAkN<cx-wx4JBXhAAVwj,0;@a5o+:W%3^)
  v?hazD@1]W?l($E&vyE$tMad.%oOPTu;VQK^%5$#O9I44V+B=&>VlDOov5@]y0^P(6D&VjPsVgTv/7+]Ja9Wnq%.50f<=Dzu[
  yBTxtxBB)G6X8Gvo,GHS7>`e.P1kC`P8VCZTD7DO1u0uffNw)B-SSLY,xnJYV['C*eKA2bF?_d^S)2Tw.*@jtw[L-YA0Omq`d
  4zXxfAy^gf/'6I[&L@b%ZORqA4He`&4*i79U^+gam/an4DJGqQNl:%tQ?'v+p13$qm]ZO?WF$Yr`QA#:)QA=6(,5AWro:T5kP
  Nd84TH@reRoO'/N&%d<WFFsdsJ=IYE>/Xz+L(`'0>3ZXaJi?hcXh(/e+mT)TwM*POQLZl?X'OyXi=y_D/_aA9d7jhVjLB=vs=
  &-uJf`Gb5-XJ%9)UBBx,Ov0ZMQ%/kc$:`A[8yfedDN'zq*273=%bT$qYI?P)=h2^BdAgy_5wL:DWEAQ<SE.51#bWWn9<vMBq8
  (lP,<_><y+eZE%l1Sbbyp;?'L]qim=tkV+J,yvJc7#ZbiHPVPPQZ0nJ65SrImC,?v85g^%cB/m?n`CM8dw-h*/&R>B4/xSFVn
  )peTGwO,^iQhgwk?8r5h^zi>cFeyNX&]%Y6d0:bZr-YGfmKl4K[6[]<@Ypexm>3YPNU,j3iZe[=OqOVPHW8LPw',k4Wr+J%eV
  w;r`UX5E=-%i4D2.'`+bZu#sN,C+FISs1a#TU'w9UHk*3_lvx82zeJmDI[<g^Z5ai1I_^)ZTM&D]][uaZLanc/,:.F>EC)jsl
  <xF2@QAc`^p:bh_5NMOxU7Y2zpt'rof_d/RJpp1GG9_$D^UDbOSC.vCaP79EoW>qL<G=ftiXYO`8hKOLWyxlKjYMfeALy#3$M
  Ghm(5MJjkxVI7TiE-k)Q-gvs#CIW*aQMX$mU/AbZ1ug,ZXToJ9>Ds^UU_,`kGxcyYw(:C7iW>/Rx*=T/&Z[uFiGJ5^%]gjK_J
  o8n<OvZ81V/8m'_W>Z9z+VJ__'?DTm>iB_ui:PGE:st-@/;GkB_ydk-Dex0Zs%V0SV863Frkn/ZFfKu9uk2_It&lXU[[Di;r*
  :^wr`23HoB_(lQ@06S<mP;_Qjb<EI&>G$Cp<.Nr=;F]&s$x=#qbtBI37P4XobJB1.:MZ6.RGl,>F2jjqa82$F<a+6c=33W3X[
  XK)nZ/uK&oy<1Dy?)ukx54HJ(ar7p3n1a^vYgrSEeW`nQDI=6AB$j5#jw*+Utx=#@mM<[KbI=t>31am'dbSbYE=W]E8vPjeXh
  mbLNTI$urK-15/aib&,z,ph1>Pz??-j<(?$s<2mo]gz2s5qXM1>PTaplz*eGbgA2#y[`m+o`KPlS+,$Mr94n<?e1q'`yRWtQX
  w88W&mH>kFHeZ`;dMK(cQ`j'G#^F:*L#oX3aRq]H^At$TiVCN>F6W($HEk^?.tjtFZ]A%EjH-jGjMJtgN.l@bA.BxG=xmLgW9
  3U@sk:*;%@1)4iau#py1XLp/oN<MT^?J])K'Lnt^zM,jht8&wo3Ya^DqPTS<fXDq^)u6S%e]brxzJ-x@sot3a6W7=aBuU5t4G
  7X[cpB2H>mn2dES[5.rmk/G>U[h?n4]>8@)7<+*wm&-7FZe2+*C_Y'HqrkE3ya-MiFW^l'Ahm_Q3ux##M::W5DjxfQgDW4lO_
  ]*`;e9DSGXwrx.IB*EQuQDQD5Urig0kI&2/ull-3*Ev%VyPKt:U4A)ar[PcTz5tQgkuE89O8iVI88Q59280sZ7lsdqF2*#R(M
  V_KwG%v%:^uAc+bOIG4&qCW$NoX7)GOugm3;<pMaUwu7Jn`yAI8Kz92c)^^m4?sm2;1m8Llf)=E'(fx^I.M@YBM;6`'J(Sa=x
  '=b4<sCApeY%tLb>#.,W%S(0x^hueVX+jB[iifU,[9ZrJ@;ny*>R.W,z`)<G7e1gREuLas#?]+tM%nhMjuPkBBBhWop<W*fkg
  GGnA24tfm$3wFCp=cdpZh3x6KH)SdH6eeJI0q=^NLxO6o3hgCGx[b/Qc5Z0'LlNQBE8dO((i7INLgeQxnMcd4M3;.QBK]Y]3'
  .eC3pu+s7]:k%82Bj'S,77gB<0WCwH33REJ3dxh1`;%^23wY&EF=-IWD$f#5W(4#JN`Ps3HZ[0Pg$Dyh+AMK;HL?:pC*B4cCs
  wg'0fn9@8yoO5*aHDJRMaN]b:UBQ8[MP(@:goyZuq9@<rp1q4Z[vy==NTKLNya4FcEkkE49_t#5zV=HnRIt*BU7<`u]U#U'Zb
  y]%6HSgVm1tOH[bwR*o1,WZC*[$DCEe#ne/y<^.a]Me2ahE1cK$%HAH5Va&nk9aWa.B;bVKq<*n$#^x<LPdZ[[15vuby&=41%
  w*b0Y).;R<9Vs>Qff9^2qsUT2UT$34vXH>#KhGcgGPnkJx&%#DA6><;Dq,t:$zKCBZ9@,Oj&0[QK[%wPZL@fG3PWT.E6LtrI)
  5i*Tof/KFJvmg1gdZ44ZTZBB2B5UqZ<mBvY(8=>UM'`X+9n2;^/rhH@Vb4%l9d/HgY)U'#e&;NpzzN`8HLP%`;8laT^xdhlmZ
  :YQT8?=FeWIZbWP3#[/[Gfs[NPK@T[^Yk$M]J=gB`&e7)=R?%x%vf)jp=;C]g9.cTu5))C$8m^fG>#]<^hL%S:+BZ<8`Ll]1w
  8ljbTJLX[Lon]R]+o<<bUP8M+s`#6[nZSsHeV7:jEWLBa$^6*$)OAI*Hq%h_`<MAjX(yo)^IWAv.IZtY>-ome1Z$wOeZTM%E;
  `JiBL(64C<xV>7G@wTSR(Nwn&T%7C-r9*n[Q_)OCrL3+i2s[L.#3P$?Y;:qTa$s>'W18F8mT?ImP3cS(9`?pNuNsMYhq$VHN[
  rg*K&gnb1`F3/1"

end AttrBinder.Console.Emoji
