/-!
The table of names of characters, packed.
-/

namespace AttrBinder.Text.CharName

def packed : String := "
  j;fDnl:EpUMp@]H(3Df$<I.?4]Fr-c<0/s9xq,y$iJ>.Y=Tf`B$MM*)YoG_&;1uoq$phq1*(_B7j/,mh%bv5Baj;;k@p*jA0p
  qXirl.RxKadUlA3^elS6ChB/R%#mKj*c#Y/Q's[-peP<?si`+:KtUCce(`,7CtIcVt,h9K;hluackrW3x-x>fW#LA.wfd%1Xt
  9xhn+h2vqDqP=NO/bbLPHmR3K1Jqr<m:gmRr]H<DE_h&D-XJ:Y^l[lB8*I=Xsd24JylrRaH1O@[$jM4,&TIu_5CfdJ1r$A^8;
  H4Itc/VsB/tbU)WyLDcRQlDBc'Caf#3c.fS@U1g$((11eY81I_@Sw_qUC+z8<hkP?yB:p+Cce-aKmh`PMYKb$9Kwvo@pYyXJv
  Q[0B0Vh0Fj?5T2FoLzC@A:pVOXWc$mFmsWBRybLdW,$fU`0_3.s,86ohtyo9Z^i0qX/4p/Lz^<.>J;n3((Ew4CP8.cXF5J)(,
  y5qo'lrpUOk%<XsTjYK/9zC9V;hk`>*#SQ+wrdH@0bwt5*86l0Rv2&;YhB3>P&F2f?DPWMfg)fy0&x49Ob2AOb4jsc#0NQ,j#
  >p#ee`&Bit-jY3*7pLkrqk7eFGqm5HN[Qcl(,I9]`A4VNc&jL4pm]WNA_Aq)NtJ?+tM/yR2pd;$OQi)L%SDe(VgqKo%CVIKP.
  FU5Xeb0vO`<2z30usZOHHmF`pGg,#`%^q^=eWGMMKZX<?QJ#PHuvFHc'KR>Vc+>d6Ubdp#X.Uv-sLvrdL.6#Jm2JM##R[s_D:
  DGSx1L>.mLZG*J5CHrM?R%R'[G?[%^]uh/F&UINe(XuRz+,%/pp3DBDs(nWW5%G-[`Fv:lio2RXq^]_VC?s#OL@@_KLXSp*<Z
  ,L'&k5<C=<Ko-;0g;QF:%5wl4=BVX>.P`OL#oG>3h]`*n$?eTK2]8MU17KgnG%CNFwV+d/[,w@u9I6;Mf]jZA,ddDRAVnGo&]
  Gf4OMpp#dP^KY:S;)r=[EO>T$C+N30B*$kv[(P5eLNqnZ,Ol79^:Bg5?s(-2orH:/Sr_WK;Q9?lB&2)*<R(lsmI_#z^Td^$7V
  'IOdKAVv$Pnd9]tKDwPecr[BkMT<'1*F2Ty@%DjUrt@NJc_^lec[OFSV]6mU-y)wfW(HOQKL(xb]SQNOav&c-s_/Mr.D?tue>
  9kOr'g39<iHBYU0$U(IR9^Apx@0J+vKr-y'm:zQi)W.GwzOQ]f53/FjVsc`m$`:aVRDK`5$YKcmbNu?F7V>U@&bjno;0`t:V%
  &[o;FHp;89%@t8>Wy9P>cyuY2YWiDnVNg?W*Psb5=HDoU$_suXi'4w:olu2SiLb#]yqmH+6_=B'9`prM)-25UtH(ynS_oA[`[
  `Ed?R0fd0=%],n+hSfZT(=>?GcvV4J)5$E$p3)</zx/L3lB2/Hz:$IZEk[SIU558OOlzV8b];D))@MJ2d@7o;$&)R=HF,eDcU
  Cy#T^H/h`D^Zg5ve8t]gVxh1'e&W0q18ZzX(yOmj_3Uu=fSq^[hbk36mHiI2d,BUDVuy7?hk=j@.iZ`4=XT>]3j>6>-'0CASm
  ](^tzq9yCz,ywn$@Wf1mRE]af]w[[U3%xt+Sw>I0Rvdi8g>%f+06^a>f%CnI2Du6cT@E._11;M2LDt$-;0hg7%2X4iU?P^PzJ
  >1,2L<:Ye8q^e4Y$DOv[3xeb2.EPNKl'Pu_'r-K^[rN$<LF5]76G7*.u#4][q^ny:=.2eI:H+k%R^bIn0NY>8O-RTpprVz_dm
  QJ1H.#?wg-iTc:QPO2B,]X?,teIBspki,4ztKM&OP$4q%E^559cuQ@?<hD)28)M1<S5^/KOdHk$c(HI_[cPg6MqM8Z[[XK1,G
  rFmacqZCq?batj#^6%i)58d1WfC&MC.)E;@7h*0=cTXVGV6t*<RwxRkn-e8tNx^pc^HDD(-r1WYFjQ#>M(:?v>r5s-8dPlSQH
  7t(F)yXlix]ue<5@q$&+*IX1P%T%.es3Hr5,D2/pxblw4):p9)UDwy-:EFp=iT%'x(.8Lm=l5m=Y$>(ARjW51<X=0##L1A(<F
  Hi#8>9etM^>Od7P=>jpD?_w:BRnQa8MC,1GsZg<aslf7EvjB+R0)=lZC46schUbfrIj[S4rZFE:)%O*fc5JU+hR]?WTm;D_e(
  Y,I5;aAbG$S_c_[Olj,wcS,54%)`2H/'&fL<>q^3i+ydQ56KQY_KDCf5O/5R+`>hX_6Z61=^:=J0KhrtG2Bt4JbF1@g,`[cD$
  T[>_[ZnZP-HfzeL53z(D'c(v=,tD&ycM^JpCCtAP^2g:,4?]IAluZ7;MYUS]VJcbKOGN?7IEac<19Adqe<l6p5koHj]k/pv))
  O(4Iy;s3L$2R(D.>uG(4FeK/Y8<R_VA3G8n+#mnrvW6]D126R/<.AvgOLgF5mRW2EYrs2x5:2+4rvK<=OAB3.a/bprEt`*JnS
  Ek=i;G*L^GnOaJMs*40.eh.>%3ZVgS-i0dMX8dnTdEH&=nR<eTrb1R+mmvj5jeCB)%E=kQUa5X,IZ`+Oc,3L*>48e`S9sD1/]
  N9>`uWvY?H3YB1vr_i%n.r<tVl-2,W?h0>NKzz8q-ARKAHFoMr;B]m<-0z=Cb-gDV$W&YYmSr/FR+/t[CKo/L/ju&>)WuW5/_
  *SO647+O/.dKGj1]*'yJgUafnKTnmUI7[Rk8BxIl`%b>H6'r2glyS481Hq5_%Haej%3_i9D^N0FQ)G/J+jx=NqB8xSI7>C<3#
  *)(R2E5L_T3>fzAfX4KsJs2*-Hnf'i1lg?HS9Ek^XTLV'sL(^W[+%+x#ox>9pXC*yHw+]J_r<+rOd(?xfB<El7/v+/TFiL@XZ
  3i9,BedPWsArMwPhH>-9Lc$-sqh>7S/lG]*_V7>R0<Cr>YG:.kK_`pu-8EJdBXMRvIFsT7x=-0=X'0m_<[=dGIIKEs04J?a=4
  DR^kB1EP9^LWkPTjWCC[Kk2]>4J-I.q$=ThRRI9@p(yL?]0>9fBK:o]Z-77cY4B%U=k;&*08Nn%q,sCi*VzTW3`wBw&Z;j^wW
  G@Y.r--iWfl9D]P_wbH;r1-$5t-TJ#Y/hyYF@P'GjYBG4ej8Ja6x8O#.2_=y9v$tohoZg([4LubJi10YD<>Bc8$DWH?)_25lw
  ^%l4#DLiv*(J0U%mnq'(.:+=8vC,e9D;D-Gn^6^PRaE+tqLP-3:hcv>uGY<HtU%Ekt4LZ^7Kef-sK_G`^jQL@uyqj#mX>6T/)
  8ZZcR/-SzT5'?Z>*W6[Qr(h)b;OnuGg5CXax=^nH24P_AC(t]R:XV5Q^M&:0aRciYhj_`Pq]0Ku*p*pUVt7f6]dhmUG4IrG76
  :B0P%)Kweg=;GZ+V>hp_uz:z_0N??k4H%qEy/zdmQ4kNX$<O?-EdlHj^0+;W4E)k:n9RXhr$oqfXj[8FvP-80.zwOqrB1X@[/
  ;Ud-h.3f*kxr9G:F*MoSo(VJDmh@.GAjmh$&.c)O:'oR3(7a79OEqPU)%qii*fh^lh3`G'P(Zt#uQlCq(_aJqEi^BmUs2[s9Y
  WRS[/D<pM>9m1<y*q?jqc%t(H^S&?2K&s)=fI_dygj3T,Q`PDD7:'`18(0(fTS7<zq2P*:*qlw*z<*h81j<`,,-?2As9tQKb
  W#/'Hhy+x1@EmCk`+FK9QU<O%*3Y>&o?S-]ZX?iE,&#(A(@c5Zj-[t85@?0FLEW;zF;uqK(ZTCe).;-rF,XZ0x#`80dzY<63l
  7RY_Y-,pS_7=]NbdUqL9h4Z[zd^%#Z_OC-Dj6YLWhOH#s5CtLQUCv+6UfMiWEN_:bfoZaDTQVF()BElrif&ty'ajp*m7sUcMz
  DYTZaUQz5%UR8=N1mt=T*^EZn-R]%CujxFpz*=uIr:v$(+uQtBGrRFSG=^%2QXCL39;0yx3sUUdG@yK%4T%MMsUqX21s=VyHW
  a$h;(l>5>_`Rph#(_sZkeF3,B4TUDv*L0m_c<2vgN3s_O,_UwII4E$,cyJd:XlSbaCxa5RA9Z,hsLTQoP$r1zV3oZj</da<t-
  ray.cRt'Kx?5,s@#<+'%276aUPr'epCWX5+SrpXPz%7L28(1bq2z3Uf7^srewzTx)cj%4c#eAi%DskjVRD`c6w$.+5;<E6j`3
  Dp#dF+zWJJsEFm+Wiky,3pVkW4LvD]n3m^EVedI;;;]Gw;eLo<I*aWAlwRG`'pARxl)F7[E<d3].6z'`@RAx-0F#Q+0XTX.yG
  ?Z7ZpzktU7<%]VqTRZkXZCEiy0+XZKlE;&2X*Ul;M%NnU.A1O[`YN35VLOe';?OL_p(Z,HV$D3H#kpcA]8e]<[4,l6<YvDcsu
  (RjI)=3bjmvJ:>NG-?>=jL_YD0)+f-[k(&y'N?Y6vaNS/-wMP:?vv+d:I1$ol8Hlzl6Ot9Q5YcAtwIwFhyS&ZQq5aD[$rv(,.
  Z.(X5u0QWNL-@GwF*J$A`7f&%[4Xh>OpG$w4s8L*hz0FV:kWWVoq^]@AwFZ?8]3uY$U+FQLm/B0XYnUJD9t:M0*32V9elOJ.I
  VtAkmrTh4&%OkrlyUdL<4?ERJi:BoKDL0XS>ENoDJavVaj=/JmV05Oue1g9/08]ACLoz(QHaTXXAwgZihL7g`))d+qavyrGy-
  Z$`xSnU6N`CO?mcM:EvtxH.&6d2%&&[U@l#Dlo_mDc^+CU6^P5YMd>xOT1&HkmG+@ovLKv68(5,gsaWcrQN=@gr,&45D`;Jb'
  BYjA'>$knvntJbYUmn2d]Xw)pxb;po:t+kVv(Ib;h,*F94N%7e:'g)ifwF=O7+V0ETsV(3nNB#e3u]LpOf8$'2K)[q*D%DE[S
  &1kjFCr.,riP#+dzUnkE#F@J=(7kbTvfxDKt2>hQ^J;MW+ag`PP,OwqjvYx2kXBJ`c+_$j`x/8;Ep/`f-JchZ6Zm*]n.EE8l2
  a-t:5U$]dZX<?O(h?HeuARw3;U&L_^t)r@@Nyh0]EbLnNzY0@E55%&yS]Z5VFH)q$g@C3(5FwHTAKng8lWjoEmSeehp>:wczC
  pJxv<o[w44'qT1W3Z75S5B7<=:.N_C(K<L_xmq*)P:vn93$iK'gix9tTTY1Ke`iJMKUG.MO0V<fHIM3HBRb4ZZf;'2a.G&oil
  h8gVbL6T8.%2Eq9K4ERf4:Y3P@//#E4$[-gLoi:f3#YLjBY2l025M>6hvPQKHMsDHUykP,sD9sBqfvm2]1+v&*ZBF&>9ZaM>]
  T>C=KZeFDjY;Blz<8+=3yRPUYQ=8L=hvbNi.Myn])w8+9Oc5`f_E]W[tS^3]tV34_l@r,qsAn5b:Mw#BoBS,,[EBG#9/XZRx'
  /aY`i5f6nz:+nAJu3xB[<g[4A;]&4%e52tS89tRBt)C=jsON]RA1E*fZ70qRO-sMh@ZipQMBY`B:=i*1An^.NDP9K#^@/y:Bs
  6%K<.<DE2WXAej;);zslGgt0Py$i'/+tTIpoIu2-kFe[nOY&eE81h'CS?Kb5=F`m,(l(8/HfSg6<,S6i0]k786SF_wpgqKI>S
  &'u$;dI6Y^#y_xE?@*w>oAb34US;L&rcizhx2>[Hmp)c?b=/DO>5l>iT`(:ZzBny]]?B9>q*W@LYJFot:m&/J[eK]y#H`aPuE
  t_tJ+okILEF>F;,>-y=jr>Rgnb?XZt*b_5CdAx&gE;z3C=gb?uNzf@ZB4?fOAx'^=p+=.xFJ^2;Ik'4HkZ_?S0,%=;LK72G,z
  v7Ya/MMnzM$$SqDI:L]4o`p,_X+%UA=_8.tgKO=R**yjZMaPJd?#9Hx*CxoQ;CLIe4pwG7k5m@/iC>Vz9eH$w^,4-cn]>'bnc
  D`eDO@Ntu[P,ME^[fndsA2lJ(S;5mQ$0ut?h91#VPA6SVU8TA$b*&MfMT#>03q?%0VRTg;wl]oltuj?1]KdaYqh(Nhu#pCW/X
  ;s&[=4f,9&9zI+)#QdoavOUPA)ZbW&J7mq:3=lD/%m^GD-Hw[:J_s3BG6f`>_gR,G@[2y[BbKo5Z%NH]>u6IwG5/pM6o3Y]8A
  -&E%@,&],1I;(G9.IBvrJ,H'vHA'l]d^f;KpQqFV'5gm+vf12[k]Foz=JBIJ(]NGiSy,7p&%5OuRZl:4hu1K5PMJZm8gt'.+c
  dw'4q)ErnxKUNZ^_$IH2[TeQSwT>EME>4&Fpu9DV$`an[i=<i8eI;8clO5Dm@3LU4v.2:bOHw_U3Jiv[BHX-7&ZT^&r`py`W$
  94:6H'6mjjP]'g,#nJ#m-#=_Gg0ihQHDN(ICngc0L/EGOIvKpB6s38Awc68Y):iF92veKNQpj%[&'wc,Lb1wa-Z^:fnm67OfI
  CB:2B__:h;)9E<#K6aQth1'*lRmPGHpz>0c'FLsDnCUy`k+X;Ist'SeuAF/YPeq$GY#W.:MgVkFE_rmEjs7PIP6o'z8@-X7G2
  yDu=5hR8oQ@v%FL%fD*R)5AsCej<'b<h0E)#$Ri9tqi[c[]+KMayV8=it8po1oa8XjAED1sOA:T>5AasDc1:E?h@a9,D?_t=;
  T/Fn[_VzLT&KnX/4,5;vsI^rh@Uenep.Sn*Z=]z^zbZy/P3'eu;@6e8nw#bt<R>lRu:]p]R0kZwrhBqeto@FlOEtK8pVLk9;T
  3OhV:>?`W6e]GkUvm*%r=YiAosXOJgr7OCmvWCmrk%i@6]sOZV:j`2YQ2Z?9&q'vby>XL9#;E_,&*q,el/Bbgfgh-72:4D2#+
  KpVt1<;a2w0?NAvb@8@su)^BC4VntZ5nZ<.^nw)#<N7/>jaxa]vYiqSW@0EyaAV@^G77ewv0J^HGO#^/+-hRL?pb4Nc)S#[):
  [La.]2OK1qH])v_5Ne5Be4L;EWv.#(vOSf>+nnLc4B&tR+4<J4$48p]z0QK'9r8b_*?e$_yv1G_8ArP'(RMcr%E[iO]VPRc&y
  %jtF2<1rkA8WNcg@U;&?=Zb)MR&Qe^m_qJ`QSF*ubNvfVBMD`9ldEjWLo_Bj+fDyR4R<pu+e<DhK[O:jy$J(?MRp.1yve%;uD
  ghW*N=[p85UcFP<77.&?k92W8gtl$@4=,?D%O0*eUZ5`a%JwC#ZoW3`18Q-4V^e63CmKGuV(a'DD:0(VNnKq7`7c1QZR`2oSp
  ,.t7O;ouU[i%D.05><_s^%k/vLc-nVOx7&3+lmfnjK>5'uHrc1AoErn*5PWs>hCZsIQKnKD>[8feMUkhjGR<>mVB#Z0fd6MDQ
  )X6LMBLuQqXGFk&jzg?nJeb>-xJJ1wn2GUu[I0yWiD=9bPZ7[1L:u&.F..Ri_u(SGik4q(&8YSL-&9A-3%C7r42]<((URUCUX
  `yc^mcVd3voWrQ:>_QFpmm</IGwaY)w?nh53b9VQN=)mPd3aa7xm/&hQSjoA7x4u.]m]q$5^[metHjfU<emrHS+&hlfu,Bg'H
  kPIaQt$;_mxvOot;cOn]jkn_]E-vo=%p?gddP_YS*:=.CKPlt[T%wme7)lBlK0bZ2cj;oTh_t`Vv-UbwVb]ldFHF^gVAf8O7B
  iZftx4worJ^9P,=7DERQNxw`PclO`MS>p-La>ny-*as)(R9dAdz*&OSSNOU?rrK]wkXKK^'G9M_f^LRDMB:$7g@S/EhuoWQ1Q
  YFU)lEZ>c#Y?4do)NgZsC/RNK$/gKTO.O[eLtZ3sxde6$kOQbjB-X1As:#8N<yj:M#y_Pvg$H)+Mj-lYF7(TzNi'>d=a@v'>o
  ><Xn%#wQ>5n5^Kl#g>o5jSv7bEm9.^bRTD_R`_;0@U)3L4?'@5yB%BiqFfHsTD]yf?l0`8r0/azP-Axfl4Znd`Wo_Aq9-;tM$
  ;=-V?MG5asiK@-@LiykPecJc-(--`5NxYry/-@6VAMtd`K.yo-ZYd4VaLMM=qn`0.3oclZ)d.]E&hpB?B%JUDXrwt<1d%*hRU
  n'iZ2>0%pbQ&Yd%n'6`8VTwKY3;V5rJ=wunqn',I%L(]0pk9YlC<9o7`Kf*=Xn]nPH0Zs&JDa,cGVCJV+=KyUB_;Ia6rtFVKm
  IR5`hzN$LyypdFmDYo]MB'GsIkNnW;cPC;VXkr(GuAsW,[^IXM%*,o?D$XdFm[P$zbcN(]T^Zs+UvUKT/uHRd#.nq;<5'8GVQ
  1D)`z3HdjucCAU?<G#vehq99MnQNq_cFU/X?d8Ca06Zx_'/h-O?(mr%Sq#[r$ya<z(Iv740]8j-/*Q*@n@.ADR#Nn)7V`,P+`
  ?@R-Qeah`n3yhEa=J@dc2`GvtYj1VY]FMi2o<l7cTw(/DcOLSpjhwJ,gs)IAfxwo>f1d9eVY$Ju6DyPMvR)%%[t6PCj+ISceg
  A9&VVtiIFcU1dyY4><,llxYN$$z2SqIJcbCyMzljzT5j>.s()QFy[30trn/uT0z+00rtEHSu]jH4NuZM;=h>h.g$-fkkP1gpq
  zVcI9a[38?Q-'Fs/o@#+E5>R>LIPEy)SPLo9.?X9l<_0vEjDJWru,)E@Cg[]H<rd?+c0,CRmGfe55zb?HU2=]4>Oj3fYHXI*=
  PY[XT`8_IO.<Y'U*`Fwa.B9^memcKJ8$wolq;KfYtes.;=G6%nbML69F_g?N2t<^+`5z^M4'+)H3R[YF=?5Ux@aE=AFBO#.^)
  _n-u9z$yh-Nw>;h0gP0.jh&ktl.Je8.lioA:SuVT:S?;?;<1z=^s@I6,+E&lRiq4:%AfuupPSqAHm?T:,Y@6B1tTV;;@nLE5D
  kKd9sf&:jaPu]u'$2j_<h0lCX[)pW]D;Pv3,uf=Jr-r6liOGI53'(irL7]h]L9)R9pmu+K<OK_4@f9-eoS&C<BwVkZ)IAavp/
  MI83>EK#TG&Da&MxUOv*k1)i(jAtIq-ayXz%uPd+4mo8$?8XFc[WnVEzQ,.IT#[IPg+<Y3PnQB)8[6$VujifhDE<Th0c0AD>?
  id)hfC]='u4%r,fN7em0o94e4d7gt/S6V=-E>/WE1dYrK+85P&2AgX[J;C0^).Y0#9,b[<qu)Vv9G3>udt:w^1?LKG2DV7?1)
  PdCEQwP'ZnAaCGeCCy<p`S,>P^Jm=nep'-xmyhIbJwZ`(sD.M*#n_>B7>e=s0<RGliO_;`>@ucJ&hZzdMBcvTGjZ<'D$Dah`C
  Tg<J#_hP`Ny(#Lh^-OP'LkZPAc=UZ9QN/<TH%]@Es/,fJ17:*zk>=JkQ+trfz]zMETMt)[KNmnd$qmKOiPza@Vd4qdR(oVT'5
  CVd'X:S;I2?Kcip,KabkNtU;s<H]T%&tx[FfH';=K(wjSp>gS6R_yTzus>TS_QT`$Cj^1%vXZBaR^7%E/9`V6V*9$Uu-1iw=7
  V-M%rRg78BJ)KA.(c29Dt:yybWOZ/8dvf9nNRjHrpfJQ7]qQ`ofiY%]3dMn:KhyShnOIQy=EnH<Jhu#vfJ$v5l5VLoo%]YMs,
  B8.UMone`A&YZaHVA4.J;UEIP[2AZj/:'YkaUMm<Kwr?^`v7dT^2Jl#`N,8&ockHpIzysxBR?9fovl,mMeTPBBW',dH@Dz`jR
  @p]HH]meL7Hdf3Vmi+_s6m&eNw^nu?&[pi0z(3'P0?@?hW=Hnk2l/yXnS_n-mZ/qv0wfelOJdf++$7R,D,HK^6OiH1;Qpa0Qf
  fO`^k*=%zb-PVzX4xqurvTF:Sq[=b2aImT$S@TtwhfTGGOX;rsVMMO%I>*XQyN1GHTxKw=fN`vfEdHLO??c4$n0&kO<_c&BeL
  Twp9`AYLf-^t7NHS:PN8jFSeqsmBi;$wgcv8nXje6oR>I;:gsN]J:;+uJ6=NmhXZ[]AVIAMOqE=:TTD5eP%[4;lJK=bHHfj[E
  h-s+_ST8dbB+QiyCq1Qq<kqxskWelfb/k5:SyEfkS<N[$e..h,9jE?Fzl>pU7c]aw$F^#f:AF@EG_#mIX^7iPt&qmWWSr%&5'
  <<*#oQtIK`lTf#>ctceuC&>fIqAO7=MMO@sHGd+bQhtc(qS_+0(oB)qsWvTD3xmT7#&[[WHxg1EX=M5Hw`*,'*3M]DCRGdAu)
  G&Ue/xSB]M$x;P(-DZXl+ux],Q()eox$Gj,#RfzGEh.IZgpWqPncd7/GbBq?)S1R?kL=X<al3aa=,?TBWhTR-d<[/ws$,_g(Y
  w)).o&Iy+)7g$@L*HoC.[0KOkJ*Yyl-1cZZWufcPm3qUcrOVz[1i@o,*Ai>WAuHe7yOFCvBP5#B$vGj,MnmG3ksF][m;P8D``
  kV+$?`Fg[+,-a=a?B>O[[KjO>Ye7_wZEEr&dV)fT'7f2Kg?5^+EstRv6PWgeo6_3QIW/.wBcTycuX=9Meg^(H[R,,F2:6<]3w
  v1^;E#K8Nj6L/vHOjMK>i7&5nCKNIc/vVRD7>1+cHmI5jlO+s(qoeTP;swM_Xclfck8jTXTV*p//dJS5acC`bPb6QaWHf3W]a
  3<U$4b9ymTuk^mhx?T2*)wi0*li-(KFtUH@3j8?MI^zl,/nGUD1I0`Vr6w;o3dB_+G%Ebqks$S`+$UTK#/Os2Nu-Ui?^YtbXG
  K/,lV`_[s56I-=lyXk`M-Ujo4IEem2xTyJm$IryorHzG7q%87q;1)QhZDoCC/LX[,ywKOkRfY>t:tEcnh'a6x#D(6.*(>FSt`
  yF*h(/*)$OOgi2w],x@%1`2>>cfgvs2K?m9<7kO=*:UM'A.A[uCNDG8]w;Bs7s0L)f(oWN?U6-fm[LL=J=bO)jj-[NZ3jOgkT
  P970A[F_N%SjJX6]60[P^NAa(WUsI=QQ:Xw479GBtZV*VS'P:[<Bu,SL7h<f.#w5%`aX7a+A.2M@Lgmiw$e(Eaq>upwb9tT'7
  ?/5q%84&cU;wINF1XCYH4jBDczWkOrnYl$ynbcc.p(3[C4K+76MYU2y)r)#<:a^-1k>wC_2'+*)Q-ZYms%lTO`Br3ny2[1$N'
  0?@)w^2j^2F'zIEn[L;z,EAn*.0[9rd$t:U@%dJ<J&abnch72-1$#w<'o)nsYD]>'R5<>NRK;7/6XTj(M75/[m-Xl?rVT9?Mu
  P^kg=_hv+?edL6IgcT/e9zUL2*vx4?5ba5s3%<gw$<_LWKZ.bYH#p;XAr3=-8i7s*xIv[]u&JmeS5n7y.t^`Om'S0e^DovmR=
  mCx3,ubE*esX]S<k6CVv*QJdB2.W<U$3M.U1j.8uxOqH/llx^n3:S*SuxdGrYuG#?ODjpxZlppws)<4yubmj1QUCP)&MM9HqD
  Av1%<?gd`Jbqfps7kSfI.3[j?**?(2eOm-0v9:Z+A.4I9<nyCu^wdyzr*Aen%fN+clv(*#JD%[d87:)V,H7[<F3#3UZ>+<qny
  c2V('@ip)4AO^y+wX8zVm?K`Ml*8jDW)J+VqTMgEU??l-Wu&%1BQ+s<Ny`tW?6`0Y3xNWvl?QL[[;5=&?ZwLJJo&[*Fg7o+ms
  '`hp?uBIlU$eKl'9r(,O(-iC:SGk'<'lF-vt/o+c#qj<E&m-Y-M_xb8q4u5p'`H;hwOA`J9/Pp_$.#N4'Cy5iC@T4I<L[<8IC
  D0)VOR('3r&<0_%X3&rjCu[uy2OrG0+%F_;$9-Zb1SRc3g[2EB4wwc7D)lHv@Ckd=m%`z-@Wo,GXY4vm6uL1i&9nnMJ)XUYZ>
  xwi9*?#_k2F#$w[T62G64bf7H%&=FQM7Jq`w5M^WL`IR9]46V[x&twW/KmYcD,;yw/Q6N>ec;]i-qbXdU2cw5F5WCs<F^E;hM
  67ef=uKhq?fQb`jZ9=R7O9u7owdL@n+?$59*i7Nb2][a]=FJFMfL:Bu'UW#S:<;NuW4$_)Eg/0%5Fb*HHH/mXKRJKvuS0s6o3
  CDk@AJ53BZ*Cqoa:%ukTQmqBE>oTGUIen^6E4r/:Cpt4b0$G'Y_C)_Y,c#l)Pv@Z=Bo4_3V_Wl$yw<6<8R348,KiI4K2YTTR7
  N)YuTH<a0Nbbu$TvoX<Q<b@U(jf(Vxmqn#=]/Eqc:[R`C>=uCd4mDrZhGZ%o],Q'RDxDQ@3BQE461oh70SqcM3EBo^r]v?YLn
  .W4z1c/;m>+T4kwJ.uE?]LY4V?8'3?/bgfFI.-`/@2BV9'`H*h'Dp;mG$(1B6$h?PTB.`*EGC]O^#PB5tNc>E8<*<k3G5tD>G
  =&$p]RNP8?Z(tT-@2k.oW`y=xsb`;F>dY$/@od7UPD?`J2^U9cCZfTs_C@CsWc_vADfwVVIEvJf8lrF@.t>+=jIdga(Zp/:kF
  huz9A4c^e8RP*[>m,?Lw_NrZW9K`rc9CLL6UF-H>TNR=>/<(gcQmQftsSn'F8d]YCh^[3k[BP]_lo3i=A=b2E4&M`oZBhsk,e
  3%0*6oj'/e;u:ocZ/c0hRq5JJwaONF?ErgiT_dBz<3'.'x<kZE'.mL+2+zi]rBvOafG-.InOe_N-f986Z-FVuUf`rgyU%,xlZ
  &]&'t>hxnbPv?f6R/^Do^OU2/D?Mh6h<BU<y*3fwO[iUh/mzd>+Se9p$22znQbn%KhVl]_;&k@^G7Utw2A?$[oI6tx8Bu/q.N
  vpjQYN^9CuEjHV^a7:@97Lq,Uy8FC;^5USC0u#5=(1vxm6_K_1iPyDQo)8BL'm:oy3@/LFV6X1'^>%@^UMpgFd1Vo_o^&QzvK
  %BgBCk>6_Z03HWesS00zUt])Y'.Ls8`>?*<du2t:.uEVN`&*2WjiWqThQwy;q]:bfMztwj8'jj2SvoTy#B8Cum(zh_@UzpMwm
  o:eI2_ce*quy2%U]4:3:*2Ok&2Sqi2]/[1pl&u)E8spsbRI8bTp`w]WQk/^T;2d4`KD#O'(TyJu$+nKf29xejJuh/0>Vh'mON
  '',E4q=;IPT*Gc_d4/Z/Zab.ZKzB78+9rZ?jNKRJym@J#okfozI9^f1%[kPRnJ?eY^y$4T13lU*z*<T9F[5*G^:EhmJlJh6,A
  u=-DlM2&H53AA:=1y2/NFA@$2uOQ),.L]sD`^&03*8b,drC5QN/,^_Fhe:Q[htgvx0&MP9DTf?2=mRkvRd/ixK'YHd;_;,0@c
  *?l1ugsz3j8-xJ-kf2G2lEB)a0gbN2o0T?hFHEdDw'zmBE<kTRI`N_tsieGLddk&.d=?LV#P[%y=B/hhz:qok_%o`/3s]SoaK
  iE#,ty=vjUBpjI69[PiNI?V'`>*xCSgDe#x/mczWV-Y7:2(`GKu32sLFt*5@ilfgIu[8xqlxaV1rQXFhE=2S+fdC^AJAOpD/o
  mngK+[dVHVy]qS_0+c0BOU<s2dj5O3E>ACfliKsm[vP#-tU5Wy@7sp]QBSD[Ri&/N_zDe.(^+&cCde$lK(vAL&8PmE$gn@M.t
  (tgUU,?'$o=w[6K([H0PIZ<)%;P.zxu#rOL/_a7&-,uZKA5CCgmJ;'EjG:0Z`wq`6.d0dcM:kALGh$z)XnR?>i6P7`52rZmXJ
  )-fEe(xr2X'@2t<hS2_54sB'X<_^D*9WeD++AOW[6k#MANBoVwz=kO:YeI;yxGFT+7^SZC#=/]_kU:BPViOy,t.jN=poo,CS;
  A:^_z&&08h/TIqV^%3(xPqxF9cv0`t?;4Q<II>;g;'yx=bW/n[L34PiEY4yQa%HxmS)@YVy`kp9/edu'm&@BkNiq(-$0wQ;k3
  dShoq.YBiKwH2spk5maGR=(+)DZ?7WXt;P*YXUj6&ik#<?+k<%%v>A>p5Q?M+mv2r'wMTk@pmwsSW'=?/E'P@xIET@5wwIom(
  nBYkUOx9>c/k;wc8iX_.;1.L4x$s*FL?k*cyPi,X/Uc]7'<$+cSLG]KC<dza(A2GuE8FgN=K3J;+Zd)y(qP@UQDM@<j/yZ8lh
  Dec,5zMt+f][epiVOJZA;Gr.j(S0I9DyD>s+eVb-qa@_EloS=v-IA_.tBMcV-pp[OeUp(jNZ&V;+hiEEl,fDka[Cm$GeK$u*i
  kNi*%]g<+:sY-;Eq[r&O^m;%m;xmuIm(*VWpmc_EGILPxZV<[_0Z8IF6uVNJXNK6ePTxIVF5ChXNq.'uao@[BdG>IZobJ9hNZ
  JG0vTu'n@64FD16M7Z*Dhh]jIlvR#M&h)F(*6NpP(<r&TJkNS0*y>'3i3?mB?P2ss&&Z82r57xju28RefI@zA:5=ef,(]=s@`
  f,V='R5x5Gw,7mgE<*b9QQEDCpxFn%Zg,Q/?W);-1P7PGNjKxg$7$)n_W2eXmNc$Fa0N>&/'3u(&N8i2r%EhLo2qLS`NCCxSN
  @//*'^Bz'Nm#f._@4v&0F]MEJk#VZ_h9gchodfy4USBQadE@XsGEYy6wL>?:8+W*ynZr`p^X.FqWQZTiNd>_#b#xf^r$<=8rm
  )%nV*cO.u>fbrYhQ<$,-IkOXk9JRu2%6`$RpN]]Ml/_/5kpN+AjSRR#z:+c6q7zxe@9af>8Bsf>m9kIf)6t.Ru]^e)lSA>kU?
  =:Ti[uBT9-h8qwW+3GO+V;h3,%G_^#?F6?/gkHeo%@ar^oDQp2`$7uOKE6XRv@-NhI]:LW@A3D^E+ZpYV/_WT:F:0$dI9=5)Q
  J0KTO+L#UGm>[NY/n&qMVIi<E&w-f:QU.6@vHog4W$4OjD@3dQ?ZTqcK#LyiY:y%>T=3fPlwxg5gOU?,:%lSxogmrza7HxlyU
  x&D+9osu/tBoFeN5k2Uk@8[Z4r_:#ypw2D2]kYX(6;&+Iq8]h=:Wqo=IUi,n#((9(&iZ]P?,VW(]^UDPWYt&?vKiwzgrC[TD?
  (A2,%1.6G:N)G2b_IOh^+nd[gbxt5NTL/.>(gMAmb5y/0brF;_'wk?wypLFYM2H,W1kYGws'=sEFpky1^n(1tNAu_A[U,@FrD
  $dt#S-pvquyV1K4u&*kD:Wu)3-B,%v0?G//Bhcc>X$M1J^A[3`*=?7ATxD,c8QwEx2A]&=[SZ11VGS.ebU5(N9bLrc0(%J@vu
  Q_L6L8h/*URm;t'fg9?N<sN<O.>G@D]yGer4PLMSbN;/v<?k.ynGvoIY$Nx8-+:wm29;ABjl%COiW'RRGsi<q*dh,U16HzGJG
  [t%<B$j9,CK5mZAF1e@7HYi=&7&Utn)^RXx%@9=vQU96$]PF..oho9zo$BNv>2#e:.153Y@[ADy=]FbwZ<EERpJnY/uHc^:dU
  nm<Zr2`OWWQ<@2e@X)wP5c#rvUD.Y[[SL(T,FL/v6f`<:rP(H:(&UiK&1wyL;VzX#,fO`x/nvm$xuMdHE#iEz#omZ;I/<ZSY;
  x%9VsAqEjMzxC,0iyq#SgRY)#_Ak1Z,BFOznFGrVuS,:8'l,x`KjgbSo)o*i#am_QgyUWzjmGnl.&Z@kmQ7O/nVg0OG&;TTl8
  ._geG7U^;xT:JN8vk(_#DgM7(jLaw9bk1'L,CI^xZ]np_v=:b2:*k0>#^aYVvnYW/)ZxGBU@_&4w>Fh76v;S?6KQ:a?I*rq4P
  13hZAj=5sQMvFX^C%^BXH?L6*`<P.U/%vViu:HgS6[&(n0Vw^`tchM.WY4E<Aec[gi&zKL:@-dKhvVM^u''bS]uJP`w`iTOw]
  n=*f3@/&%Ch.=)21FPgotJdfo>u-c@X#'(2gZV+s<`/C&zB*=StcE,9Z`t.4Wjb^;88@4=[h^3OJ*J>cc5cy5pKQ)DG2O'-,Z
  cq`.X$S[e@3p?f(LeDL@L$S+rbygcYj6>W]p3spG^(GJ`jRLRlUsgkCX?PJiCK&E#r:U7b%Ewi$AfVg,14,[$e[7ueu4(g<_l
  nCjUarMP-9r%fmWN+yy?.K9?hL6^kFnX=8vBH'fqodYiU;_eN_F^Th^cIU9]J#Y')%9Up'm@F,_51PvdhSKj5ud.Ur.AM$l(Y
  _`6G(&*ya;Ac+pR`[x,iDOVd[aJm8d%gMpW&c[7[GB'D^)<v^NaAR^:SRKII`RwB83Al[^.2ACrcwR@[#mEL/RN,*Jx489L8f
  Tf'/'ICclb9YO7B.=UTq,e/K_fr>e:^7ZY6JWQHH[fG33Jm[L6.n8WirW8>y(H=[eUjQRNs/]SYglU#b@G`NoTKzqs:cnzY5l
  aiA]q^D;x%5z/7tK1_h#jz8vNWS8Qd?F`[Y$+DPb,IPXP:keF=YV`lV0tL.,?F8$wRB]LR/Gt*mk1)b')a6ANPt_tepGBl*v-
  KJP3<Gi`l,Z$22Bit?D$;:&1k:ZlY/XO=w(dWx5iE>Lz?.Wj5WF-(HR4bN$O-FmlGY$'?A4x16gZ3/o6pwf$L+bS7J4ldSFx)
  O.:wUAYGOf_Y1axI*_RW*U`OO/cG6<dkkqMT/%>WiJOd+3v*q&CJ%*$tx4#,n$A@<G4;npbUbJg7=e`9N<P=CliUHbMwX$L.$
  .I;'kGgA0s3a&HnILuYv&h2-p,>f#8(axp+zo+6c#wDNukD4kSC`v&:19aa2e/?KW37M0R7jA<8S/9#>%L&dgS[Jfc6sR?A4/
  xMvD'YlkgdVws2U)R7]-D$^@OM-3x)-s?@I7L4d4qoPn38c7pdEW`Z&z=%@[hwzEO0H,F/pM6jOOywl9?f4RI>S]v9wD5d@4L
  J7tf.-T+UTd$v*t61+uNQc>dmrCol/XML+snLz*vV5wtbP$C.Mf:*AmzB[Tt].CG/%fn$AP:t%yz.$dCpvYw.s`-cGkQw*qDA
  XBz2O7Ac>&nqCNP8u@&m>N]jHC1_=F.uQbnB+3d6GZ,C$KM_Bc=pmmK@L,FhHLyrn+hb]#Be?KY]v)_6HO(X(,fOy&v1$DTtV
  ddz@upN'J*T7aTfMa%pu&zmI]g0zr]3waO<E<r6WhZ@.S0?P'.Gy#i:/fv?-iK@IWjkTat==ZRhO[cYlI69lB?IM3%%XkX'#%
  %&I/7'XxLkrimi_=-J.h@AhqGv.kGg#IJAd57SK:lo_dAQgx/-m?JOJU5j4s#pszkXW?35n9R<eSWn2eu;3sHyA`uP9:pJ&pi
  ag@_T7u@kM%bV=nrm+n'ZsyU^8hjI7sjZcpAkgrID3dQB*3ltv?h3**N(,T4e:1)s#O7ATd$c$15W2ul7hZXPK'CA:UAL8iz?
  ^y,S=e11/##HjxMOLb`9_jRUYH#*ug3=)]a&n;Hq[4j8q^pD-b92nGsecKM8c$XHq']Mxhk$0Rs'1suv-]a>]Yvq_)^0)cF/
  _#Qc2?n5?#6RY[EqvlK8PlXZ?WSj<im-fmzwliG;LQtj%IEOGE8u-77o5rH*BRfkH)7p^A<u$?+Cz9F]Wwamyb5.wmdn;D%%G
  VOu@m]Q#,;zkk%XZKae;0eOXQq_b2H,Va8o2NJZk22^OE4XXs0'c(FfzzR$,x+ou.(1AV=9aFwNn(&WtQpWSBQ%wbR*YxB)i+
  +2vFfHib%1=#)L(5oyELfGG68Ioj$X;'h5]1G/l)iX1CTOSWZ_<1JQ9X%V;pl/-&NNjzqW#gj-9KLqleEGRL`qSB4x:V5SYco
  T.ODKjh'uoF<PIWY^KP7;(:gG:WDcP@]iG@u-#D$:Gwhl`ta[bud:Ees0F*HJX0Q7*dW@]%PAhAF`jkS[C#z,mb@?]B4h;*sH
  X+*is-u(+k[rJzLVI50f>7</L-IOw,lV9A_UaA_hMsO%n$483rj%w;A7dN2i<M=kVHcp?q@ryaXDM`Xjqs#.oeW=XLzm3:JDl
  +H66lvqfqg#IK'd?T$p6v].16+4i$C]P./lGsBSp#NDE.Gj'Mo&vpLdg8g#d_<CF:G2%agAV>+VnV_m,I4DO1Z9&pKz$3@.x_
  Hf+h'd:HMHujJ`Uk-9H_yL^sD%U_<xw_tC;zrPz/YV`i0k5TRArykDKu>UiyG9#l;RO%r-di?-FHI^*^h/%me/TGhl:tqLic
  Z#Ps<$'J$F5`$T2Z'l3%hSW*xenDSkRD7Y+DX8lzALsh2mna1sFJ0tX*mZ>XnLHgCQXX?*D44cMr)H_BXcem0zO=r%WUa_:.]
  eIl+>B:gm4$ERTmHEop1f7pLTa$O&+oW051#:2R$Dz4#r]d[J0gI^_'[xk[e.sSom-UVR61);M$JCL=wfbn=gh3`Qctig3Z+_
  ob=S]$di[t8i6_&4r[<Qs@MWF-&cT^GpTR1=o[7q*6vJ(RI1oCZ*d'Ce:Y(-8cO(k/2gh_U5^B7@#'Epms]D.:Y`_7mQ_yJ2h
  JytZ]`i8)$lUI4BSG5qlgs)i?,XFf1qS1&rN3?rY]@p2UEDRaE*7KUp[Yw+9@bQoF4nYL#>):L2PoLWyiXw`V(O]cvc.t#Dcf
  2;sAwh8s*OR;B106KGZ_KQ.j8%'V0slx(uqs#;gT27T3%5h)S'A.ic;]07s#^I&2ni+>k_5(,[N=;%mDZ16/3$R.@g37GP4lC
  jk^2%/.'bj@D4WaoHaOi[Y]JiCB@wVBF`;$0GPQz1O<5dEsvo/v.m.Cl=@hja'r&Q>v<ruv)R(aN?J5zGc(W^=pOj;$Z>M%<B
  P+y#l1eZEU=Lqt:cp=yf#o08V/C#FDzl/>3_&VE<^.[h+5w2yT6/LI+0<6gCcU<TljB&(zVuL=u&^qc=IenbhbD).^*hh^O)X
  <IJB@]M'$qP*aAkt*-Bo-FgQL*M,)0_wD=3a)]nN8//&i0l8*v(U)qD/gVqf0v.f+keNrQiEgDlc>VkN5qP,iQnuby75av(C(
  xD&u4?mfbOh'EJwCzkT9:b?+DxWdYzy)XUBx_d&I62,TbjolGh?i[KQtq+`F=trV?jAIqjAaA+kf8Z[AqkP]*#9=Rptw<-=@n
  f5L[qVvlqHT&Z#ir:3YLI#:5vXWJYqA]DQ_yK:v$_EVqQa3#U.nu3(%gf,@LvwFG29JqV#$'St=gE^L*n1A*mQ4]Ef7:UgN.B
  N+VdRX'wGZ&n_G=R%[sXSlCS^Wi`:g]N<I2iT(Q@,w[uGr0u0ubnwzZ,);Hj;KN(@T6$4WP=$CCCZ%$SXV$y#;XTBl)Y'Bems
  )>2q]?%_7cCgCJiaU3o0BQ>)*0by?uv^Cp1$eSd-SUa1Su[ppn0n:95z4Srdae0.Ib%pB,F'C^')D=fF*eF+UwC7]-yqCC%eM
  H&F2v]/g4]^#o(zvtTGrU*u9Buzo*)BXp9w+:%1;]V)0dDhTWXfX4bw-O?V;l8cjdm.QSmOFs?CT8z,ymfaFE'`^;'VyH-&3#
  u39E.uy)Atc_pB-t[?J8G_Tk>CGJ%CSXUR&boiTW;cM;b1c]6m%MTI?F4AcVD3MvRL+/.sBn(Y;/NQ0BepX^'`(R:PVd3-e>Z
  RI^REIzD,F=3ebb:.VR57RdFYid)i(z4_j-fSj&,E<MHQiS0c]H96'DVM)1L9y4^$0+*Ie#yHkX$TW1X5Z97b,D^(%hN7KLeh
  7m?$q01A]n484q17WZPLO*Z+f^H$o:mW/lu<V@?Ckd1vjEtka'sR%>O6s5(#Y'Y_q^WpYyWc,4sOr]Jvn1wl-kf@A]pkX_q7K
  C4x'+8<nN`nl]$A,b:j4Smg,#_Yc?UFKQf')vi?dgXP2sjk@U/A9bWm):P]$#t4+PEpq4@L8ex9VCql)^0Rx`bS+-4NBHAAv#
  Mz`'+1V0*V68]k3>QG)OrSOkn6+/Vx2W7V.N-_H2=Ml]<.u;JPT;.j=MWH,IT.NdA(J`i6H`>ig9WX&r]bLm$qal-Wh>lB?5V
  c`S0PS,=P,jj(Z8IUt_@>zyro<oWb)Kw^Z?rx2d#EVFP4cy0h+b$/5tQjbKd;PT+`s4@.aqda,HAFD;=c97;tIWeSBlA=UW:N
  eHsRCeaeMm9u9oTAD=Jl&(BUJQ_vDB]+hWy2.]MID$LmTUeO+uU82F?O)>>1f`[,tP8Z:qT-;IY(Vj5hA=CnO=A%hQ6bT@%y3
  `4J&r/JRZ=Twj7nCpne+Pf]t2iKQ*%'k@073H5SumY#Uxyi7mg?<r$4TFyB#%R=s4mk=+Lg<VS/lfSD2gU1M^,@MZa2BlrdI$
  j<EKtmhWk.L#^sg/g3&WjQWC&97PioP:535(hz6*GRQun/?-mMj2)KTdgG7Y%Du^d0g,uh,X@h<kjLK2Us5T;j`>8i?>T45#d
  C+KR[OLmNqanOru6ju.jtuvY`WH-hi?bH#H1>J=Cle2,y*Z4gaJG%/s[z<)_NV+=u&X8K&;^7F16DB07Kxk(=itv_;D5$A/n:
  Z&3*UC7JHG@-I.J[GWhAq_rTU$5W,[laUp;iyrkKsdcNeF$);<7JNcz9Xh-cD>K$5+[0OI9(6S9z)OcCWA3uxjlRi9&8GDTiw
  5yN?]SamAMwknxD_9EQIK3-x6hh7)bN-'l4TmtN[?+Urhx26MSHh`>A%BE^$v4ndm.4`:>,`%XY)hf:jl4O0nu#)S2Ztt:;_/
  6<JZZX)].%_Dc*Tz)-@h@ryX&*OzoZFKX94FE4SoOvkMAioNR]Lca9aj=8kYQ=)BF(+R84RzhZ1HgBD2l`AbMULVK`K;WS#PC
  L=7vgjBf`9%@6D]-FEk(0qFj)G=5x1m5wc?Okx8IY'u%G`VV%WfIFJD*emR*V'aOJ/],trhmrs5[bVC)8>I+2c'uO[te8a)M`
  W$e@0ohN-tOn0hr-/h'Os+zY.D:>cA)OKrxj)nIbsV*ap8;g<R4*QP5luIMX]+:YoeF'CC5ItgEQWxjbWR0o$IbiQb%v1CM86
  IefZDva>IAD$q><-$XCitYx@5J>IBsUwOLFjt/$4kk&x$Q+tUj'ZfH730Egt]0$MQVzRnd-7`.>*zE]/AS=@#SDjE7Se0[m'^
  r^WU,$w7g/B'cB[f1.tjz47#bmH]I&O9@Cr-c@)XfU?'p:C:kC<Y73:h4q8F4+j/u9Mg`W@%7oL`xzU2?3wQW7+<KJA3/m0?f
  rD;(;vB@MKC=c`pNAnC)J][5Wd);2KYV^XDD4,.R'4[HuW;mcRn't7ITlc:OHGrle*jBvXU7Ba$*)1vH1>rIkc;Kv:<e=QDV?
  8aE`_V,DyOf_-UTQ%M)S8gD*>WVu9SBQn*k-U`J*N[NtT8d]i_M`U,EfXSt*Ih<C82*j07U6M&cmT4.)/]id5jBo9U)c6PR?V
  oyv0@e7o>SGXvDFQ_t,C)Y`Xdpe;''93[mWmm4(8jzj_mZ#r]HhVUzRJe^z2Hm+reIZHqb+FtUxD.Iup4cnhV(.j(RU'zN3P4
  '(?iP8^'IFA`C*,'<Tg[Wo?;g>1?NLK`lU,veg1++'L0GtftY=nQSL*ffISBG&jV/>>BjK_P9o5B[K&1haX_%h5NrirRC*C)/
  (gu^yif2$]gKmBnS?$.c2X5R+;3pMkEu4==muKCwU,e`]`((e%ifF$o;L,Zqalq^Z-^]yFNF>.(bd5p_GO+BwKkQO_*gCJr#N
  *LrDgJMmaQOvUS+Z59MhLwlo+h;gWIb6O4/'8Qds56;^YJi;EHs<&9'9+/d-1.*g:]eGWjnvGKn%`x#t1+kdU4w_7Yf-2Pa*`
  n*mi&C-Nzb'=s27U7]JF7.m-wF<skn-ai#h-dGLo-P@N>`jws&/tB8$0?3msh%*^D:dmIhPtPeM1(.rF3.d;S*dyM]T:2lFnR
  Cg+ogEH`rqOe,J1-wH/TwMI-H6ZWwLVl)E7UpZH98a;NP#$=Z/O5hz5-ysS;<y5(&9%yawxsvt)Zi`;@^ISjm(A=n`#GvKbgJ
  ?z?e*KkDe;3$o;L45e$@c(]olz@2-KU(g@xs;f1a;(ajM3/VhF,d#%FF#SuwK(G6@@9MLx3f6'j3s)i5RwEQ4:cysnB21BqYI
  v;>gM.?eMdqo-(s]xL7#o'_<M`6?yK>_S$sIWK4KeX8w=/d#mKI`%jYvYNO2@zcV9JK'&e&&#E5n2cK7=Zvy>>ZGQ+Z+LE/Tj
  o^ZV.^4aX3^>O8n0MId8Hk4L_`?o@+3YW1ni6(/AjLrd?__Or2yU;Hwi%f<2q9eGSiqzX@c7AUO:#7oEGg6Rv6a='(l[sA.Dj
  r1RngRa.aJ)4#xd)[:v-E`sVocY$jmphcKVx03PDVx0znR*qi8e;+0WJMQr2Nl`;$tPRYLxFNkeRyMKa530453>8/$c+-Q7,6
  xyVSWmhMDC`V,7,^gdSQIyN)FOcw5Y]jNoCx4Yur+Kgj1%<u>M?l):Oe6@%rTjK:)jhpqE`B01O8U-1CBZTsS1xYw^F,>I4vp
  JmRyE2s5V'5wm5HiLW5$$)(lQ^9'Rl,]69LH/%cy,w:xseIO3pUT+JB,e0+lCxhJO%18'0nYJT6fe^jNrr>959nFHQP9qk/a:
  3G,`(m`_KA[WoxFDN:L'GyEV3iOBGE:0O/W@RZ/*sYO@n;^:/Vn*;F#HXu'voIR9e,('Z^ftJ%,h2CFj7j$p&VG4G78&k%.:E
  VT`ar_V_7brGX^R5gs)S2gP4Cnz:hRjdjuA1jF'rsj>V<W_m3ubrPJ-GNEgv'xLjsIl<eOOHP1jNK%;o'.-rF[%D_qEF-ibgC
  0KW]Xuvuxf^-A?]xUHdm;cu=>K*iWv*?g1e1E_B(J1;mX4DKomrWF7_z6/5,Rig.Xd,2R8q>U/Yicn81lUWh$iS>dpqvFtD+x
  %V8d-Ygiz5=?ikr9vlHPSh_rDs09&gGpp&=$(c6hiKH*p6#umlyMEA]%iDd$>vnKl/Av_J+;3dtwMe,Ut-*-r&NQLOt#1bi/=
  fjai0HN@Rz$F)#=0ctX(4S0Faj6'oZXuH`#gO0?TN[%9/&9266_t)y/hhy$$,l<GD1enk[DPg92N^4#.-%'G1PI38]s:L._;3
  Yi1LNV%G^Jb:()rs/*]Ca,'n<Z.qO;Tgb8wKLpAm.])tO_Wu9+bVp>/EosSmDe+6xC*nc+]3=0G>7t.paLMid=C]NjFyN:r]t
  7'FB[Y,bHn($lSqATi*wA`fnUW^Xo*F*X&$yRjo%pO$>L9W%ZO(/J1+SlJ`NT&oW/[Tu?LMc,:I)'hwQI7;fKpW].9-?$1f;>
  S[=PCoQ/#FX;'JSTJYcGoJ@7I<U9LH?5B;pC%0)N[)z%DG$F?_RAX3F,,`]9j`22)TcY#.Q`9@HvHZF?igoKb*@(`BA_JSnUP
  ;x(^urH@(a//BQY%Jd2C8q`vQ2&Q9az?O;1C:u;^w?vyftB*#XGBE??eEJ^lsX5#5WBN:FdzEW0a%Mv$j1TX+?Cd2:vi_FPIY
  unMSLWsU)B#`t,DC$;u$bxxi^mW`0c>KxMphK;R0o^-so&dsf.@$0GR3F1)GT99,C#M$,04,tLruDqKKf3:4N1&cCY(g-UGR'
  DjB*h-0GH3Ck7hPsqrt$:JVhGu4'EDe#rpT'PV+,guQq+Fv;lk@f4@VU5'XDiAT8^x%+,Oe)Rsc<>NR@_8e)aY(t#nd56c7Zm
  0eQKsz+$hEE@EOF00/`myomwL=ZCSI3z4y]BmbpjMNH?ofCm6D8U)o9BcT;.g%fm_IIF^on[T(DR[&5ffJ+ssWcyJd=-<dwA
  U#Dj^p<#kei:,_S:oIf8&NZM4,TOVftS)NJfC9h@Pmmh@/UN?L@cb8Igz;]-=[Vp)d8(PrOQV?ytqFGBGJD7l$wBb@cGXMl(U
  PK%g[0JYQ3`Y?dX$/<Lv%AaN:mEd)lw1LATQK5f`,5?KA6)a/R]qo9b6'o68C)Z:<kc5vzws7e[(p<'F;97l,xVZ^`7(kAn8f
  bs,y`EUnC(+CITItO40oo0(Bh#A+b'*gaPMjj,lT$xo5geA)/sSxfV3*F%Q&Sphv+7gh.Q#@xA,3/]Wg&sA4O&4o*b#fW?Q?Q
  ^/Gmc+X3LoW;Eh6G2S?=QZg8`#kqu[yl6e]V/ehFKC1AV7Dic/TR/enrF_hJc[lkL.##^vy3Hp(vd.YZqx^h%y9A2),HPH]l2
  >K6(G$4%I)eSQM=#b6w.GP4g0T&A(&xI&5O[exQ^X14>G]@n9uM>y%1p9;7cEYUH)=L3pUL30yMO_NT_f'_hK:uKp:^KVo`f@
  cjNt0lyZHBm'F_cjIInf(Ug6:wDza,mD&2,4lVM=srkbE>H<mTv+pt?$JNl:?]T=Bt?<JHF$miSUhQF1(ORg7apzrld82$9X2
  Jgl/(_)nNfh9ww&Fd5U-X8r]T_t#%#+2tb.*13n5WA+Sq,&Jr`1oD2<vSIJI+hUpx9a]ai<)r)G3Y0;3S.?Qw#Nxu[M?]4;)l
  7K,'=4Ks5YdBueq:a#u^$)h[NNiiW%i`&GowqDrx)[]&9ZA#3nPH@`yNe<:dQ>PN<EV)IJ#R0Y2lotM*fOd3w[sPY'Z<Yg]%F
  )QATX7,gk1/.kd*,FA-Z$_&)Oa<w;;v<iOvP;u:sbTWgx8cBiZYZt4a*Tdx'@PukNMX0y&$SxW+LH[SX7fvSX#&,o;Nvd08Gq
  BL_[Nse1G5aG@3S(F7R6Q[bMC+q2,PkZ&Rf`OpL>D1OudtfVt(d5?5oWsE$J=KZnO38(v>+0N33G[138sIQ;dkUjDob>%K9z_
  f4gK0ByIO96dK%zDP%3LGbSPsvR%e`]aFCD4RJzBGuRlH.s=KsKz<=^YB5s/C>CbkWd-*)4vDJ[PXR-ae%+paoN3GU=x0q],#
  U)L3`#a%&m?+rzJ#&]zZxd.,4yp5l5OXPcOMFC:;zM4,SwOBLJ7BlyPo]rXN65c,6IdnxS*.=zV=wrH.dTNdK.F^TN]PDPBL-
  =0oaTf,=:6t*i(gQcO%eX2,+_yb^Nb3gsk#*00&eS+,232#lzPid?8^01Y#[IA]VSzWuY#gT7d'V4Yk%$PWY/#a'p6+a]h?Wh
  ARHvjVg&0al4jw_RLVO9PQVimNh88gK3v5V+8tQM^0Tc-_Gdnqlfvpc,(:F$1$+&_K%/$UZ'f>iuE6t(0+3XV8MxZ&w&A;@n;
  vr]Or4&XOl[)&OYq[RR)6e=-aoARju0[o2r-FGW&hI.Xna/USdTy(]Do/n5('lb[p&.wtcaxZk/T(E%:(f(Fi][PmyE[TLm]3
  b`2_-n=,ew2QptY)sVBt'fKj?1R&q[(`oaW4q<zAxvyfOyLl^SdJ6^9>2?Tb`zJr+&^eKJ)KZ.B`>Gxx[g:MU3nT-e%X&qf=h
  9:Go;5`'w100V*1,bF9fsDON#VHKX(GRBSv9`%_sB1QoYjh13sGa[[%;^fB[bufj6UTkq0?,_YECo4x$Te`;Snq&'D;^/;6Fv
  KyU`5eR[uUk&)T5-wrxVOc'Y'E::ZNYY<ka>T+zKi860t%j*/lkRwBYG2F:l4R>#SJ%F6&XC6ivfDq$l4&]>%VyMHCFF9m(ND
  <k,+zm6^ja'G'Zdc0gc7]+eTwJ:a8:5_XD]$XRX,,d<wx][qeR$:tG$@5Krkw2(EZ]K*V]0eF1Pb2+svL,`fu)1w&?nq<$Q+j
  ,C>sA$Pkw#gU7<$vOqIiNI+3k17dK^yP8Hc?XRm>:;$[WN.f^XQevSuKvqnie;V*cbR+(A,J/4yAFt2ojdY58qa1sfP4(A;/n
  K0*pr2vOT/8G+lj@qqa^jqX8:ON78z4Ge&THqa*WLgbIOesv,.muMeZHqjzdVJ0niHBAE,v%clP'.]4es-pyu'Ozy6SZKgw=v
  dLS.nMko7^J2h>CP?@1-kMF)c#KEc9hq#,`*HZCIXO^deU)oabkwEM=Hc%xe1-F8a@+'5I:;5AqKn[bb%L1Tpk_x#tPT8<mw2
  4,DG_HO-=ZG*obWeQu6kWLt8xvy0=i*Bix9[(DxxhN/v]5m?BU6d::Qh)&.Tr8,wI]4?z[Utfj8(5F#RF9b9ia?AGZy?%9Rm'
  [5Bf+6<09VIkw^.3DFWbJr_+%>Lqdbg[q,=k<;Hp>u<aBj&2ffWpmP4@ph,Z/YykGSpq^v)Ucn7_nu-A$4Kh=1DX5FPhs<4Wo
  M7F(dd&69LV-wFgXNXUxt^NTGQvuZzlS'Oys3jEXmcya7_saC^3k)H'&nV/La#OPhXQ<kezHX)O/QM[P(0qj'0qFGB#xdt*1-
  uu'?it`vA@s'd/c),woo7_HoB]#sK9T^EdI^B.?b'Jnc*5cR6@L%v1]bToFcG%&GAdFEbKinGob)nam+%p-8HbvE0*qi3@IY:
  T5AHV8l(O[0=v.L6FPW-6c*^9PNe/Ky@0of+wF/D[ZbfV($VWJg1M9>QGSF-'EBtW?grq;-TE/xMM+TFyzKypf0eT0am_.8sA
  >E/^lvk5742x@]+[_c2q?FB)e_PxmZZPL$2M$(i<qZZ=;1O-7/w]6S(vc:4@gc;<O+FhP6/;L4ky7lfcl:?3phe$&T@m+@2jW
  &`(5kSVN%KcvGYtcEbN*M1,>(q;Vx0&W1bc:WW;YcwW(7ArQxgRjDNoPIcOC*=ThnA'jR]=2mXL>4nysNwb,?k>LtNr;`hP4F
  >fc?`Z$=dkz;L=5['Q/>K'X`t6/%#d`cNqke@V?S7.RB.vr>bbkO&f4Nfnj9j#f+-v1s[f@Y/lDWE]]*6vy*WB*I[*NE%OFTD
  +>aOn3PkvO2@<WC&GkGj@j4*d33U.qN*:kX6Jv*K%2T@Q'jBqLYI:bcKEzqd&z5+5yQ+zAC(I@A?.7^=kOxlMMsmf2As*k#;9
  lr@UZU$(EJYTjMi.S_ZpKcHkjqe#i&NZKpX(Z%+)Y&a`cWr][M^wpTsrZt#:%<ejE$UdnHu8oy7D>vmH.[jd^e/T%MUWNuOl/
  WQ,`)N4Ix<Ty;g6$lyM'u$=B%`_FwGN/=xLOo/?Xb::&k6U&DW*,$2RIqq/Gcg'BhpxyD'Zpae0WBtWhwl#J4Ob8uMRC+3gbk
  gte]zGtM4wSRJx<'85(fi0GUt5;Pa1CkZ6?[Waum'Yd+aA(XStJK7_C>;=mn[1bl$Jsl0,:MnnEZI*t+$NBl(ziB/D,=k$PrW
  X1In1hbtZO0Ab`IB>KF^mXv6dwMsfp3>vYvZSGhmwf%S%vWi)2=y%8vn./%1wi/z9o^I-6bd`7bF;D.Ql&?]':UDTq`lcIVJg
  KUWV)tJ%nICteF%Q2Ucian=sq0g/1g*-_pig/t+pl#tNw8,OY,X&n.kGok]oF(b#HFMqBZ>IE^z.*H#H)C%Q_k_'7uw?5+myW
  A=[cGl#[]Wb-L&9^6J@e4PR_Kv.n=8Lc_%XHOAu/,LR[`LNq8KRrniPT91s.%LRHlPYzE1(T2%&m>0LG/Ik8e^Iqx-R$)B5[V
  j+RR/$dkdVr=_:)EVB4-hKVBPm>?0Gt)[<`Eo'zH0y<=G35(*(:h5z[[BVjihwD#V[*AX5ppbVD<HAH:'t^5V2FwVylef=^qS
  a1GOb%uWWYexLCosOqI:>Y&OEgS]*k8fnq.Uj4Z=,c0:M$5n@UW8L(/AX^%2:eNM>.F^:tlZiA:+*o,)+Vv7chZ4m32t9Mw]v
  %Z[]vcvG=W@Rq:tJc.(dPl/@y7'GEkoh5.f-JBXmN-f=].*ef3,5+#c0o$cbO@F3sO$Dsn:Vk70y`:=[j=ji+)*E.SqaW9`xa
  aeHpRDLCb63EYBGWEuI&UHF>@L'&gpD?Af<07j$/<$WjS3+'PA$G.d9KI$,FWs<AW]6LD0m;,`hfsGp^r&v-'4&KHIohcU_`9
  07L%&Y5p?]GBO272TM$rI<f&HV]b.:_?BN*f:v<BzPH2Jf8VHH0]I<_6KE74^sMbcKS2bz`GmGGElv%%dM47^EH=[^ER;>`I_
  VP;d'i(FCFt1D/HpQ:9Isz#^<EB?5'&VYT<G,KRW$en<jh>w8)dR#-i@(7--w2Ry8v[>lNt%)qS,x7H]0Q:=jp1LQTZCQD&sz
  SnX;r@e.c0J'1n-ar(a:b4(UF)o0>ak'6MiGHKy=HRtDJm1<0,Evn&4DbHobELW&ZV4S5%nBf$GY*L#rFDYn8D*e>+T*G'sJy
  u=BGa[;f2<?u]+SyaOmIOkM9q[nYT'2zIsNl6:sDtbsZrBPH`Mm04&+jQ]vI.L/6w'N?f4+t`vP9MI9_Iqt2CSK-I'c&[_vOd
  wjA<R?wCB(QcnHJwMAGnya?OdyY&iX[MZ(EwMlrgvIi^dRpfpLP%7<5CJ=xUAJaj`C[DHYZzEo0eMxnM7,RAkRuWug3MKvFo
  W#t2B1*a$?GpHxha6Ef@P+DeED%5n-D/):m*/:%%Yfab6)r9[V=j/7TcQ]Lv$nCpWH2mCC2Z4ftL_b/_X+a6op1;l>/5VQNFI
  NMxcoo3-+Ap/ss9C)mFQ;KPf*CE]09,s=/2-VwLR;zj_]vQqRbA3u+OLo>nV9(XbOVdN8;M.g)B=XY:kMllX41,mlI$T1ib*5
  xRX4G6u>;^Y0,p@trC_w#s4wjB-hqe[LaY_8cffx?u:lBwp;]v(wJTG0**F<%VCU5>@]7B9d:&Tch'JMY9TOsEM*Z;1<RAh5q
  aqYH_ow<3`dhn0D#a7GxX>&8sM_F3@.=3a]0/_dig@i=F_QJeHeh6fPN9#P?V4FX;oJ-9>w1m/uA)C`OSz,@?_m7#P0_t&i$D
  2cD]9wY'Cc.9Fu'sOZR4E7G8k48S'&bYahn38Fa]jhV3CQ3teDA@T3qEf:;Mm:J.g76KkMy?OKA8?y_1J#c)Q&mAh*9MrY6;y
  T(_%[1QO2w#.[k:fv6O$=gx<A0ahF-T=c5kFIAlSYwpPsx7;nNsq299Aq^AeK?m:Om0?,t-dxnCe&QIliaM'P-hZ)$+?Aa90x
  &002SMh3Xq?zT5<q@XpFumKWrw7s)%*4k@Y8R3w4Qq4.gz=-<Vw+*r#+zkSERmNtW`mb90.0/G60<DV$=O)Xv];D_t0-8lz@F
  Dqf9KJiPNm+s-b?OHvYW6L&H<3<Rh)zpNU87DF99#z<RiX`rMbc2HMO`M0z:OSggeR8_?HJXk/&.NWpJQ`yHZmk<q>hqreIQ*
  .(66;`@S<.uJ_<WVYhkUFs,:2t>b?n)Jr?/f*y-7qD=>r_TlSUZ/h'l'xou`$qj#uY8RmIl)DFS3')2aI46mOzN._Vecs1N<W
  p^j:/**32/#lNc`^ezY%w+5clm[=qG2(p=aiF&CY]LI`.:vUWH/BESW@:G'n$20&yJa-LcKz#>#&@g&myUdBDP3gnr'coQd8J
  g11AYLDfX6C/7:@#57-+j3`#E<,bN1s1]mu7xOqv=ee-;sXK#K_?Fmb&ky#h(hjYows$$bur>4F_`vPLrl$O:$1#kq//n+Vg#
  FS><O-NGZaK:M_2W1ZIf2Ov[Iu>oQX1y*JQe1->aTc9;Wu1Z7sRW#X-2k[E/JmYnX6=IPdYjS;1-[mOy(*1vf1>*ke@v/#>lb
  rQ+>#olNe1;?[YtvEZ4llTT)d>U/Znod6WYz#6jD$vhYjC,dhyKHE6''cT,O)7DGl5HZWfB'J,MCV_Z/'vF*Ootjy-:/XO3+T
  uAKIm*NI=T$]olz$odb<L`D:eFB'hEkoXl'gpy^[(Q8127i9'jgGOPZlRK5m+C@=?WGB>S(>9z@&_1D;>(GPM%bVejc_8]%s#
  Ep@?Ts13VoK+kIYA,R0SB@K&Btf$shCx#<(aoj,n8E;D#7CFrr6BxL[UJA<-_0m](L12rfPL4JLAj(I]WcO=S6A`7,EkusRpP
  RKe$I/q/pz.&vD%.`/mM]jc#drSboiUPJV_o=VXD*$XTcl+Hs10a5`Q^8Fv]RONb)CSU*faD2d'H'Dz7a&?o:[C9]0NYo./Hf
  K>v*6hL;79HG]r;P$]8iiVhOGmFb'O)KA]EhuLm<e-]e<u=)dn1arR>.Mp3Mg-&J=%-q`8vnMX*6YcaHkH(Klq-Y8wDlp`nMp
  mY45*`=@=_Bd=/p[ayet>P+c.X>N-jO6Aa,rE=jqV@u,VRXkeR<2IHRwGmHWI3UtM?>D@jxP8nv=iDbTZg]m%?0g'pOWm2J/^
  [;eP0)h>IRPhkV.Diq)^oxf#c]%Yg>HFlHGxZ&tC8-0Z[%C9qHW.(oq1>eBJ;iOcN8wcW72?7-q1-u#+<2#Gk]nxaO*ROQ.wg
  Dl0>WjGL%SMM@2Q*#Sk/@hvClg'dGd-f`/A[=:duyUyrb9MgJ;NB/yeBwiidDMrac0fcX=p>2H$`_&Pf/,vs^%;NQ0$5s)#1#
  xF;e*uUbr9ta'FMj&ngM7ySUZ$t,v]L:(6O&3C$>ODMjk=JN[#hA,]R8j]Ph*MK`,l,&%tz6PzbHaycbSW2eM(zo1YAm^%4>I
  SU:U6*?i1.I5JamVzw*f+aUMN)]-0&0AZ+-B:mwQ#G9oxJoX+ah8Qn*&az]>SyDs]*`]_;:B_<(@_BVqGAS6yFe&dQz%6wb?<
  ><ttXr&+fY0fCXg]MCco6FSV*ra'^/Ps5yLU=%3#,m^V0FW0%tbMBtMa#%#6G`Jh[sNi@?v`@RI*wgdk4ua9z[;*T5Tyj,mnk
  6,bE0gijWV9wXD?Vugen_ihy4y9D&OSYP[xUgp+M.`0=C$pMeAoR?euE:D:f]*slZr>'VYH#c[pbAjelI(pm7$DE=Xc]ix'H)
  *:tBITCo8nSTYGk)AYhwkOLmQbiFI9T-f(h396jE#2L.Cs43@@2vKIQ@KYr1i#HgiD6zZ8(n@9FTHUdwC+0QG1SgZ[1pXE='s
  $orOo^)(bp$3:zW?t*)1Bv?p5`xb/N%*fz^)N^uyJRZ1Y$:Lg>4w7k.?bTJenL3[OjQ8^z2D(Mql7*)dP^-9k11G<q?_uCL`;
  >N.:6trfui-hd'G_Fe7qF-sA:;wJiAzw&i'WgR.uUqM%ZfQp.Cok/t%-na4`3GRRY$2LD8O`Q:lqV#y6BMdl2a`he1qj.IYF:
  vSQ$]XzHJXJ3ACv7*yxi#$(c9lp:D#S`;%mN4F%#2:>Kd.hTU7)zDZ$8wfNC@CU(^Q&Tdi#dDqe%2<7<@.Wfp8z=?J<h>'I#%
  RzUG$-0>W)Wb_arxpkxdVS[z:8(M8RZ:sItirxZD?')`B54fCN^?fx*Y>G;z]3^>y8Ao&6+jA>?XVK?y:p?xRs22,A1#5<MBt
  9)RcUiP7=KDgsj:cqK0Wg7Yvnpy_3f0uqDVF]byo@sZx0:'tO9Psq4GzyQCblkb-5oz^3*oai0-.*b^^lj:@u5fLs']Ep=t=z
  5_pX5#([DwMES'X8-Er?%)?j<#[j(GNZ`m::W-%]sIq]PB3lB2?]V0tS%z#^,bsxzT^yp5m^BtIa=_wH#?wgm^@dPThj<h4j:
  GdEW#R'vzi8:]:AtN_cr=TVrFaA^L.W6>>[0$Tziqo;LTj3kyfamZ5_rO.&3gNe=%`F@;N`nC1?TYX7?H#Xbb,bdVv&W4MCfF
  Mr`KYC1Ez_m81bU#X<:7[eE4K]m`u/+o/T[gr4.?Bnax._E)`7T[+d^;?;<]kM=#sS:pU_8LJ.?98k9'OorEt^Y?$%#MU8N1e
  H^WEUCepTB^1fh=AQ1Tfdq#wQM*=_Qq9r@h%UVc2VxeVzFr_DWea:CIs0dFV]#*`TXX]#d;aG?g'JEFP9$QD^6&Sq/_Mx0I^%
  __Ho;/GI[?u6?s.^d&O-X-Ri&6Q]mhVkeb^6uH)Fl/._=@o%XKC&_y*sOB@UO+G6*Kz049p'KHotVbOcUUZ7nN<U_Vmwxh-J?
  qBR]OwcOBIM59dp=o]yaW&q#=EG+gb&wP_)nWKw_h+f.c'vRgN.oA9Ny?.j+A1eZ5yx*(fE5k_^9?5y^vnwnxc@Nop`DO]vWw
  DA(IZ]LctH709BNgdC@*ATk>a:@y793a(g42p5lh+,gLT-q+<`h&NW6I/iaf'O_on?lJ7hUKd/QB+v9r((g5uT(Fs)gCXrm8?
  $=*Dm3fI@>9$0v&?//%.^_L)QF06E<,@CT6w=5/*_a79B#GqiEDPcaONcpfp--V@4OW#5#CUr==)R8Jim[y(vjL<<ZUc_T9_d
  aeMeqq>B^uJeAO>6ElQa>7H$JF[m'JcO`EeUKA+Vb:vg*h:HHfe^uI/KH1]AyOAk=;%T>:z%y%,9GRe0'6Q*_k%;)c$gJd,]&
  59O#nSg708o^%jbx,7.EOIxj-aQ]sP<9NFpap+e.Vq.*/?Cg/ACrXr_r_a+8Klb^V-2k,F85tr+SznXZbf9;qLDw1X)dmZst(
  a(d(g+hRla?yx^R1t=R=y-Lp[z+dxzqF9r&SBD_ikU.G)j7rCPV0o:-#NVzw4XyiK@-Z8MLJtnwjd,H#'hET-DjjIMoe0yy:m
  K(u.YlA4q('6ANA]]T,[;f?h[0+Dt.[iAY*/9sP_EyaRCp(-UO<?$V-@*p3%lb`WhcLALzG)B;sGt?<W7ihnh;7$&TH-+aKFN
  l,g`,J=MGv5[OH;PZmMm*kbtq81%pNF-$iKY_;NQ_3S>-vP2FXTY)z58bh>rx6bClab=].gK4+m0I4qXk_^eG88085gN1&<-a
  9^Zg=Hy:p-gjMsl0A)rOjMO[%D630vKr9a9c`9X3idWaN_+t<30S_8Q^rG5B-k^_478P.wQ$TJP(M0Ax*8d=vGRC.AG_OYx4J
  8A(hx4;60IZ%[nr>$I24)PZ1]bO?@]8MbE45`ntAg^$Xs#LL@[#mHy+OaM8)jA=K/=i1U#kt2A<m^m@E))6RQdwzeEvh_H+YX
  46[5=k'nzC=)l/%f)aNr[NA^kV[ZP58xlXC(pJIDtk[VBgpzcIQ*0C:Em+v8YKbZ-frCI`@)?PArV`HaVF7_YZLsGA52u<no?
  TPt>yKKp53m#^QY_:x_wu[*Nc9jvOc`0Zg4(`gSHm@Op?1M6GG?WG(A^t+N?6Hh3F<8B;iR1_aWJq#jNq=nYOYdLIMnl`<v]e
  ,ln%vR'xzP^_aW%_Uq_JFW'XF2/3AUH6Ses$7>IPkrEz'%c:>h,dm_OpuUq+M;-WP'#E9ot0l_*x[,LA_CvnEGX`YOeI`P]Zy
  ]t=yomW%DrkZSn?,_qCz>v&6rj^9r.vsF(5,Mi$q3z.]Uw&^e1:Q4T;JwR>[Cq8I2YQ,_Eo8mZ6=C8z5bVTyp.]KC6]yS_I[%
  +>o@V@ctG.=s'RAZ_Nx8<P(?k^nnj3UXtX'IY@[x;VTke0NF:4i_%8My9k5VL`oi)*kIOz@th-@PnyR5m-2NG:Cg+1Odu;wc+
  An^W*zaPai,8ku/UXnon5?U$B*`.tH'9(SQ*$6ts?ZF/HH8YF['o-a:]t3vkdHg?02qP^FLIJ]-z_(qJ2=26aDQ*.K8_x&J*B
  ON9[IXCkk8c[hBkv+toxBadhys6&3ppG:90k34<3Z^*sA@,85^qNd[ROKWt9jjt,%<,PQ_'2$;c;]@2j*COdYcBOAz&8X(4Tq
  EW]#Wys5$q,dJfBB-nJFR*qsx9Mht&%RH4r-#CzCs;WcFEX^JON:RB5K%41ciGHR[C@Qht]2:6aX'_(aM&r.5-7Hia=k-L5D_
  y)so-/3MeHdmyHoc_=J<K[(AvCpe<Ty^vt`SY1b@,-nS'Syg=fPz7G5BcN,rHV>Gj,_&b0e2b@wy3`Dw,0/(o<t-,^r7c$`:K
  ReT$aa6s9_h9I9m.z_W4/q4nxpJt^@&l,i-D?o?;T4TF:/gtNSmK%76-TbTwP1j%gA>-w<rzl4VB6RHN_$Dbs[HK@.NXwQ/O:
  *`7LOcbk.,1Np2lI%A9.VK:<#=]:HdU,u?LG3*9%e2$&PCD69F(216D7biH,DL?C7qwPy3'4W-:n$&UmJycxKUs[;*d-G825L
  ,F=aivynTClgDo/x+_A?nl>T-hBKmx%w8Ddl,MVv,^k;:CzI+J>BS7V?S/;yxI>ot]k9T;<n6]Zti__gN>0woA9fyizZZ=KN9
  d[VE)8]_39IUV#=b+Kl4LL/3vEEs:a,m0<sRS$&m'r&^CZ,LEAL$t[yAM`N%D2fkY]fQi<2R9n*dn#WPN6;vs7-E@(+x&bK>p
  l7Y,q@v2f,C5Y8$Jf<7_,2sY.$k[i2kzxc]MO'FH=);=J'Zd=Rv9Nh4g/%2zpm5;:QrvK.Etor#uHHxnl<+#KWzF._5@^+x^F
  -9>YLYq=n1p'/wA7?mTfRq_yqp#<@z?5TGMP1ww+Ck`$Fr+,Tyx,-z5m:G,%aGwkBUf>D,-nfZI2Ot9ST>kDVxJc,R#t%/C^K
  /dP@A[Ia)7,oXlbrkGx7.ZvTuE1=YHTBZBA2IX5yy/qb.xG:3Pz;Vp-e]gSRzdeoUG(_A`EQ2qMYBaX+OH=z'N0AF9Ym=)$&N
  -/..[NSF3B8R33wy8,hG&Uj&`lpU'?fGIp>8$QmHy'NQ@1[xd`t4Rn9k2/LbX3n3:b)eLx/4HE>*K68tVdN3tfv?$Zn/%5,PD
  `i'v0(DRrju8ViaDySpOktKJ@FeLp2L)r/$)ra-&`3J*]HbQ/;9kuPI'+m<QO-YOW&[vGTjJQIMrL+IB;TCy1>JK-%zGrG]@&
  o8CUvlbOnr7cPn)6`/312]*g2>R;hWU5#DWgWV]z^_gv%5`5UMUpgZR<);(Asb&5%sp-hJseJnZ`KSsv%]a^ljvte;t`ZaD'u
  &xozxWR9u>4CgW5Zx+8_/;ZX`V>dh55)],6aKSFMWqu463DGPsI5r3FI'FD6>HanAz]8ZTy*o1DlZwjD0ily)$J<)qZ](e[Ti
  dP.Cya3LS`/or(K@Yx`]'h-_iDr/O*gTAyJ9G^./aT]Ua)ZvtwEIHC^VMC4U='2I240.Y62JNm=,HXequ:&9#qeqjQ)a$Wqcv
  ^v.'x4`fAH(&@WO40AiR-hbKW#E8%Fg)SX5;PcMfPe5>]0B+<.uHgIzmlv%A';22<m3:r2#R8Namu-Tj<pPuS8GhR-lz3*.)9
  Gu6)<;17i.fv'ljUp`w+%;2f(ie:bVi/1sG&zt$i*7EtUznAr+cIGJ<eEn0j6tcFPp7r;BvFQ(WoR,5lqi/sK,l]zO,lr,]'Q
  ph5C9C0PWg=ZQHFFTT$VQ-yXDDulSW(:VrO(&4Nn<4mQPT#/A=MZxgK/4]'`og7)S`'9cvog)qLCA*P,Zc31MMcvdgk@,YhnR
  o0^$AUI)Yd[?<l7jWTRa%1mq5`1J>iR]$T`bG43Sk*W9:NoFEY,G^Yp8[3tc&c^5T^0<]y2$AP5.O0v=.kgWm',EO4'd[:<b^
  &J4Ecm3K[z_gA0QxxMe?iP<9>#BfZ^?0:Zgg&jG<Ni7(Jl]IW+hXQ_;vR>+;H>Hw$7%1PIjAp>wuZe_+??Xj=%xoF/LY*Fm$*
  ;-b/qG_lm(+%Y6'L%MSqYQTGaP2I4V*OI-ASFPnx6xU9eaWI4&byQJ@@TF_J4sC#8NrHR*B[kecd:IW<^Pfm/v;&3l'$$_V'g
  c0qb39%V;qYbaYMB1`+Hc$Wh;OX/]9CUI0RjbV#?$.eOP@4@gfG0i(dG3jgtw[Fw,0#q2s@pZSW[0Z;5A$84;&E*BRm)UR$C)
  v[YaIn[&^eeXY/Yx7I_p2D.+qmJlL.Ab/.RXD&CpA[bbfD.J/1MtbzqVdxbP;w_wmS7ZkYLiQfJ&nIbp+>(H[(Lw]B5k6nex+
  y5Rj7tO)SkW15k;L/qZo8(Hrt-0-Oixz?-*1s&7`8'$HKbxP3MZ>Li^tZpTZMrhGrw$#cCymChe5e)0T.wJiP@&yYrJgA#g8o
  h#aQs*ADZFHcqG]%:c$S1<[_yYXe9Dt&T=r`4U3Ln#LWM;#WE]>t.nK'F96j+oEJ07^$yV*555_HLu2M']i$H-1yIpi1)DKeS
  0+;-bhneNhMVQS9qzYy@8=J^i@>E4>xmZYw/N`md@RSZ:qGrnKnlbFZm>7#7BWJ7,)lWr0:^BP/(OisXKbaCQUv^`VK3g2o=C
  A35hWR:-GX01QJ@zLo.ERLNb4jJFjgb:GI`twKs`]6dMVoy=cpdw[6Bi'/wZXpFVZi5*[q>.wV`0vIDr+KE1WM:63J)S,$Del
  /_Q2F<=h0#dX9'oQIF:Gc1hk:.9RjOI&R+1T<dL,_rIH>/wUNLKQ/jlfjfpNT?lDWKDQ,dKjL<:Z-WIV7,Cb(`YN@=EusI=wP
  rdb3tP)u^r*uHJBQK><NHX-&`+yccqNdt1)Z0&3`uC_@/%&0:6Uu8NFb0XO$r*ny3;3rru/u)aCMq>#,1rq+Do)QwxkkpD=?4
  Q<DZcYCj7+y/*cv@_etj7idbu:$Rd$@Wp3:7c:-M0YS5X8iq=W$%cc0Vlszaf>DVlFtD.2U$OXwzctNI$K37%N]Jg7wLV=xb*
  8n@CB+MPc)?BM0s5]z(N3BGGV)geSp&k(SV?J1/*f?&(5?>8mw5*ZmoD5(EBWYTq%Pq&9g[HzyT+#0pDp<i>SBIjFO;&Xq/An
  &f6(_@:bP:d>0j5X/XBnXY.%R/K_%a2,URVNd1y>Lv#U=JhDk*A6Plk#,7a*B*jE2uDlb+oLW^LtOXFeZn_HA?^'.d>P?%'R,
  yGD7&/AH--:_$a%Bv.hw,?#DHL0VYX[S96zXU#@,;AO)Z1A%#An(E=ClWi0fmo#g:GhOLZk;'%Sod(OU;-5MKfD#r,<O3CMAG
  D`u-sQs-WW.pOe-`7n[3vo5tLQFh@?5$>5OF'>X.R`Zp9`X]#gNuz<z'upmQgkDL3(k[=?_`1*P3&*z*#Z*FRr[Vh6WbhgW<d
  $[XE.>ALb$yw$gp8gh1(M#wt`rt_tMI:',UQb@M+,;U]vV[]EV*u<'']cI=C$.9nUX?&%$x*K3huRUm@;fey_'Ddk&,wlkeG6
  mS2AsZI[U&9v*lKWmc5&]=P='zta@EdNCAu_J&UPH_lAny<spGZIRp7'd;,@j8(c+oRt90yPH)WJ`rf[u>h0kf8zb2Pk8d'%z
  78OUrd7UIRUcs_(pfdyp*US&h?hBz<dR2Ua'Y[U-q2H[WE<CLZq/TL@Ry7qlPIflxK0z116MmGdK1,<0$i:7k`)=pYAXG/_W;
  i5p)w=ai'oYnR8CzkpSIzH/qMKi)o43&<T%I5_KB3APg7xBXT*Rq+UUMP_-,w^Xrc=.J9RrSquTR39JK&PKUd%:jSC'&l2(zj
  ,H?H94cVBr==m[o)nXr3fn61?Cmc5Dq.+^bJHhRnFFeJnUjE@*1LfV^(7RO$Cq1*Gwf^YBjb%7nUPNXL;>ZYH4Y]oA.Cfo7CS
  [@7r[Eh7]a]0umV(5_I/=Nrky7j^Ejw(4bfsHW4'O[jH`Hh(IhTcM5uTbdA&G/;TD$yq+].,&V'28vs(X]<wNt$<qW']1o=iV
  =jje]G]Xfwj5DUh5&]^&aaak&T%q):gJVXn#r37*J-0fDvp5s1BW$auY:q:h<:P@L6]pA:YHnM^tH`>;Wu??W@zP'uHp=]n>b
  bp[k.61y/U`9w7Z,[P^:B6lg7E>*d5JfNvZvea7Q>+^9cBDE4Ci2yq_9;MU['NiD`FKq;aaXEoIj`US8j#>f(BVSD4Lgzy_j:
  pLw8&vTRk-_uvu3Rsei/T8R@H0qX@fVdl(zL$(kSv3EVRgL0,ou8M36JWeF1$j+gts.kj?SRm%z;A>`+swY.b_N#k9Tnsl7Bu
  0y7d@=EQWdy-bj_G;%uD4$$QklRI,3k&b90yBN'T*COu@H2^^3*@*ZX4@;ro?Gh2iU.CD,O^/zmZt^9`Cp+Jif]KQ0P?#Azx#
  t-ek]Lg&[mk_[.F,5q*PQ/(+9HcnqTa8E-?FJU-z'Xzm-MRH?@Q#5HvN.7#i4G0@diJ^S1yBI(?z@tEI3tnpV;^(eePi)I=JW
  Fjb`3pmPS]H0q2T=H0`Sap[HZa=-yYv.uKqYV>,e#J(C#2l?=aD=roK98PvA)0WC5ba6W+B1[H:h>R;pMdc,BJWMN$Qqkp^CS
  OPv0'?43=CGmMjOmz=Q@<pW`o%%P6MN=YA.gnz-ETyWX)E`@5J<x=eFU9#(Y0qwlFz@0(_bc:A8v&4`wsJ`24^7_XNOapNA+4
  'zC'VKwM);Npi;>D@0[8m7Cqt0pPw^GmMOSg[m%6gKVZhoe6C9wLPr_&QnW/DjFlqsVr'<Se_lY$>T2y<Lp'CpA;q?L9'Dav:
  ?*,zrb/e2XGEaoIWoUd]#jipfLT(Jc0Cp;GPtR&)FPSpF#+O'5_MsK]@#poU35HGhR><G1;gS)u=2@lt7'aI)b]R>dJ2OXZt
  .#v6Z=D2eZ1rhz+jZ;'2LlWq`o24PeeSinqTB?qFeBS;QvO<?r:LYGdSxOh36ivu+rP?_#[,>qPf&]Y5I.vLMvJ4^Tj+OoD&O
  i^xm6els8v]eeIqS#*Z(*x'+ykF]BUPPGXd<Si*_t_CJdYrXz'@nh*t)6uy0E^dEm1uj9abVPc_R<(`6r<Be601@c&_30B]ET
  0j,.vc#]6`1TDBg8v@+/0+jQaMfNr5U+biF9E>u>lpIsOVnkPnKm?;[O`wT+vBc`>Bk/<<yZWjPQ&`w^8k%CnoYUST4%ScpSF
  yp0Y4AHyE]1j&CMDX,)wCXBe`j0VG?w6mCr2T.m[E.Y6I,ecsK=57&^=I76Bn)XMUP8*5D0G<CH(uT4r[IvJQs`J#[<Dk$rjI
  ma<z#`0J0,.4)9M6F-m;hK_m.V*&0u&8`(phX[ZI@%DqK-&$VGnJ<zUG0Uj2U=6p0WF,1gHjL=J/:@3BIf7<4Z7vj'D4TAd/b
  FO,>pCt.R275gQS@W*zpQX8>K`K4Stxoin*W*YgE6YODZDiI-,O=R@'Iv&)8MdCZ`n?@0ePzwHBZ-q0S[l_;WZ9wng,KgAWI,
  5Y1+`rFUNSYi&V-6F]NcTSE?+>%%*6CnltaMfjHcOsD[E;ET9%CDu0sy0$=n7VSA/Y]0(N1K&aLvZkZ-MLrY<j5zlNAu:X/wZ
  3)HubN(5dX%BZ,62/mBX;;2`O>s+(_Qer?i/z;?g(YF9rSLYw<b_[dK-VTs4B0b1u7@hP8duYyq1'uQpB(vX$tU[ydwm(xevz
  [=*_@h;hn.eXZ@2nUxt$N5pYb-UxT`W>F_/hAczHW<IAB`X[vpH_ivN@-6G6S%e9Wr;kX]BBz'oBjb4Og.e>(<5Rydr_nS)Z@
  A*V1nHZ1i'<stbLL66i#'@(r7z[).NWC7`@>+Ytu#.?,zhf@sIzp[:1&8%)lUB3g3WUuWOVMJoHWDd,3RkD0]dQ?x1c>Z81;S
  *GUeCrj[EPBXbB3WxBT@/Wp&.80oIX;6zF#ZHpK#Vq;>D703oGMS%+qls9qR+8CZI[iP/f7fTep)L(:winNtW0WYv<44ylJ3N
  fG.@o;_Ie8?3mh$=#v.zc4&=GGmq#*NMa'l^^&`jqCL(SW0L$G'SWa<1Y');'s-BNgs?Une5L@&9+@XMu4G^n]2ys@7qA%qBu
  dlU@9l&q2ge%N@?Yo#P&.#7]6UVay5K9.c(J=gh_piP<pqm5x)(Fq<H2a;`y%MB4zgH;kg_bZ>)z;8F1zEg:l+s)WRgXr_6G8
  Ba$c.=3IC6p7v9PSccZtiY&;I0f6*^Vo9#>Y5FkI7CV$qP1lvfB7u**P7@T@gS6fqv@W@Lf:6X`^jmgGNP8[mpZ.@rc*-nA1I
  +6e2.cRpqsCO[ZHU9x4y#0<2c9-[=:Fl[3^%2Vk@F&(I.Od&Yp7&zy@wLp%/a0FsdBS7iSG:9^xh62Oy*&5QU>_g-RJtpLqdV
  L@voOiZS8vpkb<dZon;AP(jaPI`JIg=z27>sxWa'emSkqr&B6ZZiEsf'c,lv<=ZLk%Y'wQegWbX?P^$.$)uqn3hsbr529Rtda
  GIaHcoaBnF$h$IVu#,WJrhJat$Thh7=$V_DW9nq9-qnmxF85MP3-I^]2*gnMPvs4-'G#A7l(R3Xw84pO+M.Z3FtX4UihhnYVy
  Z.,AI7@gDv^?/HJ?_hI;IZIT`$KY5O@E>]a6p1%29'dWg;5Mb=0[8zF:dr-lk;m2Q$c1mZ_z$b^9h9HAo-D]*k7pJr?t5]xt2
  y=AkYhSj:@Y83HQ>?H#]ea;h?cGF9@Br,/UDSF'GTfI>HIe%iwy630'(.;Z6`4Y?ALxy/NWkIy2[MOCK=[S.F_jyN8.vXsvjT
  <q>i8FDyv,s)djD`lPCl4Cv2q^wr2gC5Kx-O%*'Eo^1zsxna6kwI7C.`[W;`SD:HI0Hs^DM(<LRxr,cbGdK0bY4kjyb,?a^a6
  *bocf,$[V]5g:2LV6pko=B,jt>ClD1@(+2qZd`LtBY]`(R7T$r^kB7-e0_;nXB<FT%E6RlCL9-Hv$?_Oj_fvn7B.48hM.Twql
  o-32X^Gkt?R=Ad37Ar+qCGxwDwW9HXtNu5a:Yye)13#E$[5rYN_.M0]>Ly<*@N5dleNXUHh7cZ4<Y-_U,T<;5W3_;P$-Nkup?
  9Yvq_9=>tV&eQ7TAH/m+j=IVT/ekybs1b].zpzuSZdeEJpVJ.,;6z;Xys;I0<OpNU>vG[d`<fto9mMHI43?Xbo1JSqA:tWiM0
  lc+Mbv02#%J0kNm`lVG+]GrHsxCtyq4M?Z68ZhL7D3-o%2Hd6W0a(EvM-s$%w=UHhGN;tHF<1^aK0`E3`tjg$?yqxdECZo:V-
  H?w[5Qm#BFIBuCE/NZo,.-LF88$L]b-db/d-G$tKc/nq57l1*3%J70.&rX]jQK]ui=$pDmHWX+]+rN9In9Kp8wv%,ti:18?;z
  RzpK5z*'RnV0;=.<#y&C$/(wyat_`V=flLvU4)77/mm1f6m<x**k[OK^:0y8]9;qJG<=pMa*mp*+.yhh-jVQ<3j8aB5QEsPk2
  S/Rxqi*pk@qwI4L,E:bqNDJ6YF;#jn/LZ&Pc8Ahm:#MKT,VDIE),jVwRKo+jM*g&xkov9@?muNC&@Hsz+V#(z7R<JTp&nC*6E
  h3&M^Kv*9);Wq5FS/cQ)ES2)-Pi<B=h/X$@kU?QV@E_0^vBBJ`:hS#&'%A1SC=FBQ&fuOO[5+`k[1SsL63N+C53u'`'Tx3hC_
  r=%58,E.1u=4BJ6m(&HqPgB%vdrvq/XqK-mm1@F))js]Or2A><nY9v855)1v0gD;R]_VsR@`,AE1ZMM_XEHVFbIiU0C)@%nGD
  w#k<>mM8-co2/At@Sak=zHweR3%.yE?B5Uf^=]GWMA:CWxN@0&T2hcYk/KFyj083I;i:;Ve?B..&)0oHPSFRB1nf;3*Cr4mC5
  IF$<*1[c%[Xjj,v7HV%3Ekb^gCivI5K]=`UUiMqJu#X_&MLI@MM]nK#ni<TBIFD_@M(f]vLaM'`0'Pw])t$$_]L8m.kJH+?$5
  F6Dpu%$2Dre4OGS%RDFhw.n)kI#O)AaxQ@OdS4r6<?qxqz'7TI8(vU/U1PY5z+lc9UzCbnPbOr3#N;LmCnuDpOBf_>pUH%WgA
  Q+#*.g&Fp.Cw$[iPnWxjGi1.#]R)'xE=JzE0x*%FhDeAkp'g'QGx.WM0(:+c<g@d<yA8Kb%h_Mcz<B.13Hd)]I7C*kq*4/<<X
  /$LmlVNuHSggmJ]0a5]HyWOUHvm*9eyFeUL/GXAbt_1w,CD)FgAeTru'jsTK01+GckCzL8#DzVDi]U.+#O-6it^3Dk(a4mb@b
  l;MtAtawz45Q=z[b*p)pOst5;:@L2xPsT)H+Vk%O2m:RR&`BuJwA]Uo:O41rp:jDS(uyp(us6ew+Q?1z&yi9x)n?Px9[d^e*E
  znb^#*v.eCop+DdYA/.d$L<)'I1Zh#yE&;(jz>#Z=8?cVP9m_2iY`Z(.ij5MQ60LmdNQRy+#hmRJpJP@pFEm,KjJJ%gHohF6j
  hQ`LZM;ZvYm%KzKU?OQ?W`jBF1Oc(_f_UVY2[hw4*R)VA@UT(9?(XCob3.CzCNs*qN9/.Mpl05a7BdD%,'EPaHlCM8.Nnvq=j
  rG'`,OH90PUNjOd>o70#6z]'74SX6:0P,,D'k0ED41rA5@-I5rb5v+Fv5pVli4R/Zc1CSA/e@17EXDjp`6AJHf$2GED5kY%=u
  @(n:@He3fTw*,mo6]e<mYMxt0>`f3PfTxR[,`@+4)XE>+,Vd$JW9%dnF]s]?k/7O#4znAUeCm9A1GmKI1<efWDsMv1GX;43kr
  7=8mG'$oD.z&HpD.N?n=BR0DAMj>M82R4k=W:F^RQxwR6OHvROxxtVTXF<e_=ed3@FIGJR,#ex,xDb5OMyDtrO@FRp,Why(Ju
  (+$79-A>&W]5qfoe_]Z#$lLE&z0_t[27A4mCBe86$ij`SoUohS@2%k-,&7dd+),@cR_JQqmj5+qCkYgU2^q.@&CC*%GKCZxtL
  U;GRyPPoQcp6N(I:`JnSK%X4J[5DD`8`Xe]-sL6&_mx-aq:+@]Er0[)xrs%&(G/-OT.G*[IiaOnt;qb'oO5<G[dVX#k5vuEF8
  %D$T=BZO=o%o(<mdTM@x4Wql;Y^3j*5Dtr`qwy1p?Cr?KhWz22%ZKjVrpBp)^YF$*j3>SC206gaYOJg<z-`fT<v$hUab[$<Ea
  .2@#;dT2Y#Y?[9R(RmxU%ulh8HL,]3^i&lE3Aq*8@G)Oocl=jK_2nSs3:v&Nkv?9o`&Y4[6@<%6%V@TThxnAe)Djxv[/T#Umo
  $l`)+_)wiApnt(jm181O`<bJ,zE0l3&.#Ku%?i::$P5=ItW^`do6wk;ar&ESe(oHifl'3D&u_'b6KHV9zChBP&bL#sZO:8Gd+
  <,<o6/y4[b=7F#h)m@_op:rUU7<Gr/yR)7yaac2;<NCw-$=Fb8DQ$Dw-1>-&a*z))brk@N-OnEEQJ:X=PTic*:6::b:mFj5l`
  DZB)3%fSQuG8,T=rv]fk.47Am<t8ywgZ[?8kfU+H7vmn-hqY-=M;g[>brN')w=Hhirwy2PpJ,KWWzGm3-'GgK-w`5cyM#a6,m
  jb/CuXoHi&OzqTC>w/N]foA:xEiP'8HH*65?57y,^Sv#RLG+RjDJ:fvxH.X)sx35T3TbL#'ise>chBl*[bmeWq>Hqa8ko9C3J
  [F;sx=.qmawqgR=7rj9lZ?dkr3swRJZtv/-E2mYh&&ZYM5_1/7TH=cahYg/>gUX?qfBGDcN]K`SUrE51tgz75KFRjfl&H+3=3
  ^Z0%XRpmCGDK;KO,xhW8:(zT-^RXE]WXat2rHmscA_eXu,OJ)#xAAIcs,XsOm&`E/'5P]6IiI$otK_8-XTFe/OF48D1)mj37v
  &%YskwSz&SGVSjT9RXqZBD&$wVFE6U_x0([1W/il?`2QtW*PE_=me)Y4.mNV>9GT0arlAu_bh(gjJe1]_:-h[W26G=Enu[dX<
  $PvCOje/e^LXDW[MGS1ZJwLkOsqb>y,1@%9a$v=zYR[NAnz.Xu<DCH^szj)WafnzDeQi99J]*-r3k[,ANy_AIF^+I'a'c,r3?
  2m:c*D-VFdo^C,3Z;wL#b$Cp$,]hsuXkYq&zFj0;?cX]d^4>``kq_0]v#db$x919OUlz63aCtqWff*E^MEJFQS2&]SP&gGh_J
  y(kI$U$`dY+oq[T`o8#p7x3'7#gxLy&5F9F@Lh4P=$zR97z5k?6VTKz9?_T`-B`3j7(WAqjVSy=K']AR5kX.pRk#&ya3[z16h
  -7a4KC;k(?aza@GsC`1S%qiH0x8RW9x4sO67J;_)DD`[Qj$-h&+DnIMH99/m]@989+cch:kTh3+kyq]iDqomXETP#q?etGL(w
  0k'MUbeuCChja,l?U3nZS-p+_f0xawV19ck?RZRa;6)ULH(+mHMo,j<)xz]yZ6)g2jEU1?,#`N]L7^TTF7E.w2'w>s+rEx*9g
  cP<Xq)4vRbvX+B(b(C#Z_Pkm8DkuEo3+jSD1)#uuL,VaEMAW&9m`4i*H#M:bV8bPQvH&yX==LZebC'qKbkap:/T/2gmvdv@Ao
  ,;92lddpN-ebL3:&W6*81&3mjMS$+q18<$QE4?,SK.rDk04r+J+;n)2rm5_DQHdb/3wakH,oDe;W?H$O%SNl$/*d>^LdYtwg
  1#F0S90XOGK'-U&Pi@>xlGz]@BSmazYW2Ha*O&U9o0[hr:y)cc,Z,3r5gMSHCh:u@W60o=lnQcY:t>[6w7%J&0];&j#kvop-J
  -F<TAn;5DJqF&>PZ[7hWu/9?e*^A?1>U.9i7TL=_0y4nH9@VR4MYdouebE=q;gku[^F.uQad5@a&g?65Ev,4s^>n.@mAts.g6
  ;jqr5N)9N87nV5s`0qx,wcx$frR6xZ53H'Z#4DU_r3cn^5v`cpnDMe,VOXw&Qb9/Bav[4C/k/K2NQvkb/zk?zyU2aB=lcPe/q
  *IxJ&(BuiN?9gJ_2-M>oFC2ndt1xzo&f'SKw,kQTtc/vFkqF,usJUnfC$zJ3qjAUsAf#?RvX/DOTZ>6D.Ro'&c9IFESW<N7/T
  wJNU_;uqzrLVl'QfG%)fURM<yHu#81C^d0redGC:N3h#Fi?Wgt-]i'g3U0yf#ngJ`l&4OKp2dMgqr5I>F<A+ON-Pk=;(caO0<
  d?3nR]>>Mpq4QZB%pOe7/%i_/oMCcW)@w)k'Q[`d56o=.pD$NIQq<*N;U3#beGe.XiNf)tCt,6IKi>nksG&mC:2q/c>fNX[vp
  ]L]hqg3Ft2iyM^(W8In2m`=t9r2Mw+VmjWP95,1Zm[*&3G=Z$soRdn@th(fzQV9ZLYV,`IsuZK^vB,NK4<B`C'],>j8-4UNVR
  o5kp?`QXLgEcDdD@]q=<s4d=`c/671hy`-1g2,uIl`*PfDhb/,OKD0Na-_gH2Qw,p$w4K-/ci<*4Y=;,(*Df1#-.dhU(ab?0z
  /&k2I@:ntJix0FpOxD_p^AFtnJv?&oq`)F48kL)trle``i%y$9Ri,v]U?RjgoYc-7pQd.zH+[WriXYpHeNg,XIw1GusY4_&[*
  `:V@]WDvJtmST^f_T''9TCI<ek(ud&-%GH>(v&A.x8SW0<St7*ALK@7bL:dN0q/U>#b&ZS-fjlXnvCE*@?$`3yG4FGN`nC,r=
  m-mMu(EM]iGR6t+%cWDP5%s3yb43H6]@I$]_E_5_W`2HEx1i(`&H1OHFU*T[;x)0:G1*FE`.#.)%un4@O74,]CC[20`*HjFV]
  6y@f'U8Y0bH.NSdfAiIbmlon[CLx#xBfWKQ1krmupL5b$84]1(eXK6Lo]1oZw+a/JBYZ1J#XW:xSVAdn5+I#9lX-5C][7gIUI
  2P5bFDwzD2DQ/HUAT6`ou>3*#g+ryxce?xY:PaV8yufk.F_d.o1*-rGinA'v,w'A:LZP#Wr[lJ58tq=5&BQ(jQMdGiOkMM$h?
  $TLyc*)SH3#;b3z1[8:xXGa@y`tUM/UU.?>$w#iI$Yod6U?aXY&'jRo7EB58wti[GCE]?C9Sl%*`o@B)%Ej;/QO/2)$ezl(41
  tk3WGfwl+9O3<mJd9Ia&%@6r0lYwfhn-8Yrhk6*)'YjH2TMFd%]EFWhri@%R&wZ>EV=-;fA'#oiL/F^Z.=DRuKO3pQs^m]-ql
  ;^.ltz&G<]B+c:#1orWJM@?O'zsM&Y4;Pnkw7_NLq,2j-t^wBm$XHiDC)nI%P6:[7<Y+L#)YWZ_=A&[X,MbUG%8BZz&qU@A+5
  d?mag;jD^KvX>&qek@U,NdOU(ULUM/Eo0cpx*tXa@ah^hw(4,Lv+8Kuq-rQswbU)c<j,77#A*%H)?SdE4#OLmTXKkXYJq[<[f
  O?KlE?2H4Su&G;w9FmRJ'YrOsq;:5C4DxwBHX&2ClR9vNP@hFZ1jWZ^1Tm?fFlf,6ASi8GFqc4_#lF,M`_91fusL6UkuvO=yM
  3n-rV=lI,iT[2+Z7SavdUmBozRE8mN*G`<T.6wsH6qu*aWP09lzFw'X;WWRXy^UBr6IwQ_&S[3m9Z$PU=<v06G]]5,o(4$HDy
  m=M?`IeUE0#h_,yy*]CE6k-?t?RT_U9bepT-lSe,_h4yol'wMFi]j#ux?.c@DgsdwA+i`Dw-,p*q1@Ces[(J2](lYqFu<+Y:l
  :^aYUY+`O([i)T^^[9=Hg[BuKy9-oU4l#*rTwzo74z7m%5^;VgCqMfw(I7Vs&[+VTL,fi_oUJhnihl%I$Jw##0L5S1M7f1ZO@
  ]I+$/(1eTMRU]N?u<z-X^JM/ZC]Kp*pW^.ggLNH/`3o+A`@@@A.(P3$X'wK53q2/,BYv%7CH8IO6-P`:YlfDKKe[Squi5b<wp
  .ajd2eYXZxZ^SNr1?/<vS6`,Ot6trR$nut(s@TN;?dJ)3t(%=P=f&2<[SfbRZ->ql=q;=(H7GHq^7P^.$FaW4&PRV(urQSoQ^
  MqUV-=LV=`%Ds-R?'^j+0@5n-`8p#1OJYPhFgX6V<MMR>,ZQ3y8dIb5jJ[/vuSY`mj@;XwGdOayKMzO4?au@y4%Pa09o7:lH.
  =Lut(gE*taqD+0TI55'iYH]5d,_/Ij.kpNGz?14iIwG*S3M#x]L0r`?0dG.ce4bVe?<@o'RcyUO@Z.G><FvA1B.hS8+wx0Byx
  -h=Z%?+/FUPpOAZYBBq,4na*-8HTAdmF#1VwOST*v^^bR8_tpGPidlo-bp:V'neQ<7kzxa'(l>sg[W?<,.mKKGori$Ox/#x%a
  1<%1>T@QQRLBhjooOKGhEshV+HAJPw.OQ(,J,[Ca5=aJ]#,iK&#_Ys6v9egDnHi34KL>NQBBF(`t]>P7^ya`EeFC^0zi+R%4R
  'F[JHQXnh@mCIk*fTXY:^',HxE%Pojj;&ma>d,;obkko(Z80+n-ic?qNzn5#Y)Be,AQ<f<$L.a&V](mCctSkpr85TYty#o*N0
  7:>pgS^kBMh)e_dL]g,^q_dqq8G&w8:+2)0%zFje8t0,sJD86EOstagVSXPq$n<%+&Z55qzkOfi9f`2i+J]%2,E_CKgF-IT*%
  TtIAS-lq:Po$3%4@YYKWh^:jaNLQ2+:$dNfXnjIjburtGCK^PCSwq.%Qs'(gLl%X?fN32-h:yC6/TtN=C=W-2^c#CJs/aYDA/
  Eo/Wuu/n1Q`o;#F%S-/C:&PK[rlEZH+TzANV[Vcv4pR9m&D/ssO?+z%XI=`.(As/GWc6(i$Vt.1k`rcsDjG3o#s<2'R2k'hu)
  dE0lpqM>%qO?R:=MROR-]NFpN)^]9,#:I6q5TwJY?QWGuYv<.D.%1(;&RWQ(pa19Z)bw+dw>J/zb1`:4K7(WwbJw7R%s%K.1S
  XWMWq7q(IxUl#jB:pv,Ri9lhu]JQJTb4SCo?Y]w39W57hjWu0%3]-':cRV9E2ho@*@GKChc&:C#qQob`Cn1R5jJxSlC<oM#f+
  0EB-G[syh@:cetD1TA<rb.;-c1VGo30U]BVd`x6Y4q'nS^yWz:]Y(d%SH4$u.Tu7k^^uGb_'9p#HbprWQa<L'2_YOwX7CsF$5
  jt$RNjFN<cqj/(R'R5xJbxP;?U/7(v]Z%y3LHMUm+k[yG;P+okLIZT'T>*J:#rd;(zP_TsYnrLvo&HRu$3#ba)`LwY)ji>$h&
  >K+/r(eVCA)Ll*2iNJL&*G6-<c<a/cVd4nwm9iT)I&01WenY+>kDi#]UmW@8xP7>ABp+v2'hn3sYY`s1wrRubA(8ddBAOusmF
  fY/b@b[fp8[6w#]-Z3o]6Bp&xAa>4M,B]kwGgE)Sye%Yos;xQ?H.8<-+W*QlYMe?Rc>7c+9NW5OJ9a'h3GN(B<M?Q<#]Nj($f
  qAJWHi_:3PbhiV,CEjSJ3WZA%[r8F)$^K-#7?JlQRn?Cz^kLkmDwYcq#3GdTU%+QFqd9D_@$sms'0axM@2K>%]I;zTv^G,kPP
  <)@?iv<mUnxNk'67j(Dhj,0<sZR5GIj=5IcO#J=um'DDR:0=YLjT^A-amr=L7r32IT]^.CiUm:%lv;5Ve[/fa=HI)7iDuAPn@
  aR:X*`[*LL2Deod]OeQYxQaEK'S*U0MYa36Dd&(>ZsbVnZ'UusQTAaeXRJl*JA/1_Z);-AJkjQ,%AA1.%IlBlH6//[U:T%<jW
  R8(^NFaFM23/>PFND2A2&tr#nYRAFR<7BdITLnB6yHU?=]AW63cPPxlL>Zik-LJH3eUUgt[qPC/MQM00?=xLRHL:n,>;&,v2[
  -jC[82vYlIqhX3q?'oUXxYP)D9._`?1]UF0UbGxfeCCsYV2#OQfLv+XCrszSM)]y4*p98b4i8')=&Uz;)JWGn?=YX4O0Z)PBx
  7-$>A.j,Sd?r.)=MG_y6$M`F)dQr`OUw/?<6N&GRr&NRP/6K[nrOdzx.??q17m`3,@TiQav_4['m9-8[(flxbCS+IlG2-G^%)
  n>JxGjd(5#?OlP8=g*@UJnU=U&I'YzLs3LEU24V5Zh6wsr#+EtjVatkhPdu3Ug/US/,X;F5RBbp<0T#SY,3CSw$fC,OUD?xaM
  r(Qm?$lXy&:L2'Fy#8$*KMnX@WJ`?'>E1XuU+mOb,3?-,Z)A#?)q:BS=BkEOQ)u_?sgNt-Gr<v(Omr;wv@W42kur18:9iOG5U
  43z-T0aQ@zFZJb3Zrt+pu#GUia$:rIZ8293Jn`[4,5R)1E4?PWjRn.4d_^<`5p-#(3V3-Schlvp`'A:UHQPdYrhajttesniNV
  ;p:Ni]:LY@F`=t4iVyN<[Zk+@Dsf'f`iO@%?%H3]Ge0AB)*UJ[%3crS7kQe.+'HC(h[JY5JQY5FXzxyK6%[ON7[Ew.50w#MJY
  x-A(?5>HA.Z6?@]#U6cq@fv^>o9)[e41=$:f&LG+MBu+<<9`DNyfAz]pJRXuGY,=QZyx[dRVYrHthG`5QyN87h-kJgcN7[wZ9
  ErziD`zu@.5%.5DxpqFimga`zl??JtIfp&I1:@@.Xk/ef&u.QR@L))?,u<)=2QP2xPAqMo%74e$t,)Wl=QN<W=-LdVr?s%i-g
  tx7[-'?^$1A?]i[[]o%om78,K,C$R]9NdLz=e8=3;feH7;AK@Lk8b_X3'rr@F*.ZzP^d-=uEd;f-<3C/rBRQtrmsA:A=.>qPn
  f_O++_h](_%:9CX[lp-HNq+m%G)dh$nuLmlwPD3/U*bnD&$=o(6mwOn)?Vdt)&yryP@`%F9nN5lYhcqi%_s]ztM3H=2kPdNAZ
  ?^qF4r2K.t<Eu6Gd@BWI]qr,YYg%r`0c(Y3B_q:/em<e>.vz]cq>ig:1-sfhVEl3h`8u0Cg_Ckdo/S^ar/YTKhi?8g`ys`(o;
  mz7APW#$(3)f&O=9#L_]grp,m0SZIY<X,pRW:)=q;L%PKjSUY9_f*$j)<K&xS%R9(HZugO'V)*dg<ZsS_t7d/<sA6UQU'MNZ1
  %Z;>8,96:.q5x-oL:]*3(fCneGnt/%#Q-H#c8p&HpL_[tD).(e<R8PZA,xg;k+XU8W#61o*F=oUKMy)FI7/_6gE(VK;pCU?m)
  g]Nbsu.U7C[M=jG:2Lm<k;bsCoZeGe><[,r%v6yOu3J/ZNbCHz)#$7Hb+I.ETPR^xL(JE5p$DZ.@Um4DVf&Td2vQ9*-0N3(%;
  y]ea$EbQ0bLQ:)_Qv>NI>QCup3&RuG$I0bprxfHBm>bl<Mi0#o7o>%OL`UX#A<z@>qg&9mQ*e5;[(??iPzg6;U:3VL(lh@^Y%
  Ok(RCAl?F=uPZRyG#hHQWjv/wd9$:;Bi]p*MS)c;2a](yD*Ux*K1_e7hD-.=v1l@Z/9jvV]CemXG_p*J^@lSzWX-T&NMYw3+n
  lU,Ahg2G^zrrKG;#FkU;`,Z1K]Z81j.lSTBnP.d*,4rJi_<<O9]k9WBe'-<<kIdDE`<JrMK@O>>wlCUj$P371-,&NPzE^:qli
  ,o3xrN]]mUesaD@;S:H`Eld?qk*]c=GrFlDR`3.nYJu#7<Enc:+3##PHU>r,Bo^un[7@nLP(f,AT],i6UD>FlqYD/(Ii*$d_O
  ^WcAT8Jf,3i_<f>Qm6yGdRpdR7>%dW'h+^5]9)G1-5A@'8lEK8qfwVfKWQ3>aZDE<WO((+LOAP9f7fvYHYKEyFo$=nJ`;#*-5
  yq,`E_KYqT^L&GHi'W42>Gvg<FMcBB^^XtuOm3L/v6dYW*6C,J2:qzg'>S-N^[YB>,bcP`>]*=1L$nZ/R,F_*1TEpYv+uQb33
  jbAth'7F(fC%:Wo+nabP^R'K6Lh5AVgTcnHBasw2JEJ'-b8F%5K+y:-yZak+&jABr65m;&Rtu_X^l]4bb6P(KzVbj=in4T?u^
  *Szrzv^S9eEs;6NCr*X_O8&5*MhWA;Ou6HzEc;pu_[eSS`zi;[HnfC_BtT,v2^OAep/S7`,25buHTsIz[8WFu-,IC-$cR'^'7
  [Ha^Ol-kl-;/-8s3-;A3,luXcbN0Z/6GgQl<DC@zw=xfiOlu6mUSy<dbM@6>B@lzeegE)y2(]E[:i==,lUJ2sNvlERGwAUz]s
  UokA5so'FKYt^re2TAc37xFC,3gfN9r%0l?'7ffc:RU_hA*JkH^jeP_.l;fGu=qhIm)r;dOUMN)$/`Qp+)?0R+M45UP$bXr1i
  )6meo^P*=NgZSN'WYd9]kl93)Adq?H6lWNd&F'*-,jM4@,eM;dOw89WYi?Q:tVfthB`X.P8Z%PHvHo+co<yV_nGCFX82Q9.h7
  JTA-^W*8@TM6>&uVPczj<C(@G-;.1]eX6RW_&>$,4sMex@mth-J:QAoe#/g/6nps50BeLzvT'xb&PFqNY0sv<LvJTAFW_pWeD
  :/zTAlUVo&M+R`mo*@5,0)B<`ufnAGa%aCFj?V2HMVv*IliYC'6x#+NWa=0eEn=Ga;e:?TAKYC1Gs@OakcCYot%j1%]u8#(M&
  ,wnw*B>FwKXhrQ[8*n@7`wxy4Z0GG*8w`U,OIJ>4dn2x#YHh7_m,PNYF]O.7kkN7S7jeLqy1,&CXL[^e-yLY$OEBU>;&=F.KG
  i#1f#7i]ULO9EwXU_^=C/nl#iv<LF/kJWcR(:X+d&>Da$=gXgn41UD)FtBn7T@Lh9?DSR+Eyv:&sd>f#Cf^H/bj8beh2T+hy1
  E@oloKl7Rq,_qEu*y-2hFULi@dm+G>xQ^'PI+>ft5/xEZBN=4&h1]hM55)tPTwujN@QEB:>FF-:(XxzWAhTs:4k5pN#G]8'K]
  y@9'.UAslsTuc^Te3/&.1'A1:T^H/BB*bTiagazQhzLfS7/1?SOzeiEbl^Qbxym10Erf2=Sx&ss*&p5%7vcHV'mc5*sGnn>(M
  dWC9kO`i<W5i*gPX3ZjDCR#I`lAar'U-PLsX.@JWtB]WhBYxgdFA%aoa0(yFdFqSb]IWL3zM.FONjKC3<Y$Hlv>8a@azj*gw?
  ?b=J%NfEUruI+zgOkk8rPwF<+UKVrF@6Q(tz(z%+f0wdp/BV#*['ed%N9?h15zK(d,x2w+F@hwBsNnmt7K.I#GlxyfM,vW=78
  ZeBcb4^hK.CZ]RT`fJD2A(31e=s-+/,&(LtlCe3igSbz4.8geDS%=v7v@#'v4%XV_X-#Ds2qRAY%[n$ZgoeGx6;>w?A<is^#<
  <vOkGHw1)n/pex-9tMs$Ks0SR(y7@rr$gX`F,0:yptI?,UL'F<L)hkdk>zD/*@Zi]o--2`zw1<T&e8$@z?Ie4FdXln;oOJV3d
  mKF#y;u`GfH%.HOOVg0&Uk^36yd'lF(,Wf?>-a&Uz%nz+ze*pOYl(RO=xHkE1@Q/5PN`S(QW)UZT?pHT5gY#Ql[*+`$K@O%7,
  =?#ZOixU<CX*V9CO*_5sS`l7K%VHi,:j4[@P^/P9sxz9445sf90Go>eW_JMI9Q[?qu6E'R4+W1ft(uwa0zoynkB(J-'w8n&i^
  S[KIvrw6tyr'I.86QUd[t)e5jKY.Df<rsy'waOgP>)t_Qg+hK@O;Faj/o42dw8%Q(Zx-n.CkF.g^%V%gv,nbgv,4?E52(Zv`=
  jHm,xA@_ok`P-o34@8>Zre`zL$=B^JaHPovHp(J)xs?CM1vX8[KcU5<LqlB4aR12oxUI'xG,poNqFk*ZYv]9sbMe+h7ow%@,[
  %2-e$FRn1ObFbmuO8En1L7J3itbfCxwM51`w4L&^_*5C+:0ZHI*rYFnX<Yas?HAi%?9sWk*e2Z+QZ4GYy_sN+6_t%+)A>4JR2
  ftOCFpi:<F^;4>E$TEe%V>#Bt`:<-/)*uH+E(kHNC>qCd+shE&9I9:#Y++Oif4Vk2TUHS/:@37Te_cxyYTLPPH&K00UxxT)=>
  Lq%50>(*5YO]K0k#.o0HHQ9jeQbTVdeiM7MuWYe_*1aBL_R&0kM%Bowb@PEm$p'WH6hhyMRN-`EM@^$<Zc/PO>W9WINk5h-;;
  +lJ%;A'6Q-h0o+X3HOy>h_jBM5S'NjK)oK194Q6m$R^^Ut&)W93UFF?jqIe/&2b2N<$+r/VcF7EW6$Vb,)[E`OFv=#$ek(+s6
  kM3Ie5L%C^MCT#y9B-7:S;May0O8+Q/,^Yfj#U>hB[_x#;Xz^@?0=M4ialWW6<BhdGC'9T9BPWiUj^6A6;449@_BYD7AZo[n1
  :sTNI$X.Nb0w#;IPdz`R7T]`.Pf]Uk>mls=Ozc%@Te&'n+aqG/5hx,htpL<Zw<<<#Bn:0n0PA]8K#r(e)EM)kPu]`>*Qrj]B?
  $K-]OpH+vcc;+Bg]uq_^NXEla6uDHmmb6HX9r=MByCv'yeB8Yuv[ZGl-mHg-NsST,kjK5W$KuNwg]c]uWCg'fZMFAgL>=^kiV
  7/<e134r:MJ]f2(Nw%tf*]r`W^)zCKg>Unhln#Pv0PRG28#0p#_UFU^Z0j%2]y]zpU*wZL#H9'IXa]6y/sI-oV3/.CJnhz39T
  z@@?.4Yd>1^J>lfgxyC2m4:)$Cp/us132xe0#Ao#bE(0YpiP(6Edtx.NDjJ3bjITB%am#?gh9UWyT:LP)G2<=@*?a0KyG8[oN
  &?X9Do5aFI$g$tP3^Ai=C&,FcH0TQbU-OSnQ-Lf<rzz:J1qnH).utFA;$x;IvFDcnB2voN>#2/%HXdiAy:9X%,?Kk3P(zA#N&
  m+mFtG@le4lZ9(Ws8-o`8PePUCu]H%DV#lJA1LpOedmFG;V&o+lVA<@R7y^OR$4xdoqR$&Z?vfbHo:u(6PQ_l8?Z]_vOBG9aE
  0yE,0$<8tg-&Ad_K#gJm=(_fO;O[?LX8/rwOO-X'Zy#2X9Kn7LdajrO-;o(^/sr*b2`Ys)ScDyG)]TM0)2,-xYrHnvvPJYOt]
  u-u&`pXfGP>5Cu$#<JRgOz(qTxzJb88dVZQ=IY+ec[a=>Favl7g7)vCrrF[1_q8VspICSmkgW5uDf].qhPyP-N$R?FdHYr-#0
  D#7Vl9[C@JtAm6dAzQD?>#,Dodv[osb+8;I]:q4Y&2DQ</8$qRFxH6ckiBIg)F*;K_Ec>uG4G,SOTZXp`y+x)`nnSRfE1>KPh
  UOH.9xi+[-s+(g'q.Om91;j,)e+:V-u;]c/yBTx'T_J9Yz+0UwflogbI)L)P8.1HKG(2DrUrJ)sIzeI/mAWMp'H+@QZeel=)f
  jWzqa6vtt8&47aNZz>_66*;0<:9pi*XCBJ2-VS]sEEm9OP_8ftvDLw+c=RzXxIBf%Ggwax/4&'l]GX5[EsH<W@a)Q:#x,LdXe
  MHxKG&'ZA>#MdJJ9Jh,di?GaO)/xR?(6#c:ECQ8SddMtRTGIYLv;Wjg@02:)>1KAMt^KHh[K(t;>W?SA:XgwRuMm42L,FklU2
  ;Ppts9KkU,impex95U5ni?:+2$Ql>WG*`e7q6ZTCxv;RQo$XYq$-R;s/hS]p#l;xsM8AW0h`j7$]L=]m1_z_5V%Tq/Sm%ZKDx
  hi0&HU6mReBCU(N(/ONFB#OL'zUdqrXHCuz;f`F&H'nPlM1AZ6az3@`-`lvx*WQnxwWOh?IzAY%8Z>bQ%$Ut,MIBYe6;&VI][
  3Hcd2qDf/f3:Hl'-HBi?^zn>Ch]DdUg&z=Inwg5MMc(>*,HOmlK7AlO]#p;ia98iwK02%vYQcl_B$Nq3FLt20zBvYX1(zf?j@
  @09/%Phu4IV46SYdKNT(Iy2[@K$aS9c>WWc`b^ZWE>R,[Q0iGLt4Eh3n[y^%LmF)qx;JHeiAGN3&gwQH%IJ$?*5xQ#Yihk8#y
  LCR^#8fR[+fVz/#P+UfC3Y98Ul=jTfqBgq4w)j]10c1E.@E/:R6d#sol-<y`WU94jx;Zla?2JEv2TFRb8Ht.e+6vst<T&^#9@
  RhpoB;XLC)G^djk;Rb0o''2S()ch`r`XAd<w0d%Crek3vnqYBqk.fgx2%Y,0F=B6o,BsS[=ukSy['N_[_RCyngQU[+O^<qjE>
  Z>QcAC+UjWEI-WK=#J8,VugUTpW,(3kaU5#1zA=@m`Am,D$YjHHS4J(`nI='1$65.*syP_y(QDlZPT5RnZe4<j@0M6u$KM(B8
  9m[0(P4:(rj7)RVI5F-C-pULw[r/E;t,4`'W+Th6tyfb+S64F4G&OBVrbe)P/B;MD`4XuvHFaN(I9'5U_J18VM8rinjS<Y7Ov
  (/>A9A7C,VShKW96Dq9d=uYP:1^Hjn&x$)MH,;+48>DM7'RCg$a5CU'pv]h?GtV`<7^R>BeO1T'zaT%I,4b,`VytpH4O]Frmh
  /Kqhq?=f42>rT$isLghM2ZE2V.V'8W]+(o`5]s53_pQG)I@x2BNWW-56cT&V2mf+7=Y)r3j9GUV^<.myG;lO+AWcs#]J@8cD(
  &n>Y.82xlv89wSVU,/T_;(ZG/`1sqP@,L:S0<1'_@4SNzroq+=xn*rXXlJtS#Y=4wL2P'.p.:Wk-K#o%4tdR.-^Mt6'$(zyzl
  G?8rY]ZSs`/tpbV`RKbAiWG%,Jr6*]Nl%_78Byj`s%yoMDz;D=9o>,o7^mQZGS$N=_BGP=l[Id6;6cdV^wW3-Na_`]La2*QRX
  R]7?<rFp@oAFci55[KEoDM'T)6ur$LgGvX4C=$30pEi-U<W>Z7+RM4`%j@[M8Eea8?Z]4Qp_j^6v'itC;6pRU)EaL=C5:Bh^f
  $D4J]6l.+DwA58_k`bkDB0fwLAJ[lT._2TS]ZBG%H9zVCCG&MJzj6*1$KVHAyIgZGN4l4B`2b1,tqx&EqP]`9FENF`%vm(oF6
  F8L[>29W6Tv#T4`?CV]>SPzn:?uH.so@l2)1bQjm#Qqf9y9ow&lquaN0HAWVB'?*^;/W0;UZ,>GmUmuNPihq0mqXAD<w#JwIq
  yZOqm(.l-.GYz$S2m?Li$TI,/o+^Gt8qh@:;8s%_xh;dM[NK3.O:PPtD3P7RE=ocYo-cV=*;JGjUe(.UdJWi<$Gx)`'SWz$x8
  v#Rn<n;+8GrvXN.X&G6/Fg^d^as_8,TaU$2Ko,_2s=spG/&?kvL;I>g.8zZVu$Gc6,ivnefzYX%h7-VY>(Ox0qWCY:fpW1epn
  ^subzbg%zz$3=KsMbbBc6^dj#i:ru9'gd#iTPADxeZM)CpfPT6+YrywLbtuL+>]Glvu&$>7*rTM]-#[=j+=_v>U(XBD)>8,I%
  `a[vbB9c<3B/>3/bGgn;5Y&jskQ^yHwHahs9jgmJ1x+2$'M%2YZjCYejrfRf#=0dx;+%)X_3kCoXu/ROxQMACm9ZHt_ilRXKU
  c1hC#C6rbDA(9j^7k]GDc9^s>6B#jS9uDX(I<)4j?4U_$0JV/La;-=0K;RzS?=el@#QIF`Brz-zPvq1`Q.W-`&pX_N+`)Ux[Q
  GMvLOh)?qPaY86vW2k;=YjJE#6tpyUw&-2Ovz'j.$tP,.6-KkxV4g&QtP9LytI=TE^W5j`QCx:87'8Ysn7zfJZc8mB0&[0m9x
  ny&'UaE(%^3lm[``zboj;wj(B,=_.mUW/)d^GP^QZAMV_eh1d^g4SG_&gp_d(7gVqFcX*$73$-qEmR:Ir&7H7E%M6.hYBLnBb
  *?M^3'&xUcEd]fo;j8_*Jq)qd4Uy>m)A1ml9r)*4M#Nc#^$hhu*CxYV8<d%r#(;)v7M9Ua1Iqeo*FDsibZb54@H0)=?pCpEY%
  ([))5PBI30c/l8M)Sa/eN<C0/9)X*NiFqM5L'+]HymF3,xw`#,8:E&6wJ-tjWi+Ta@c.W&B%m`SiKtf;XBb80%=R9c0#xbyKX
  SS@Y_?>Ax8D)T#Euy&5jE_a%Urm'o1Bw3O*w'xbKA0ddo+?#44UI30XTQ?V5_@_E+Ha>iu#:>KC$'B<cK,v0:]thYMT$Ya#&L
  n$73i+wlF5bvQLHeUX='+idK3(tub`A20zINfw,`cQgHCqsJ(s)*:7'$MX+'Md2uR[q?KJ#nY(0aM[$Rfd9Uf01O<Y59Y6J@c
  mlQEL'QpJR,L40c_qlx>)g<<PSSqb;Q=8)QR$y5*SQ3nwDkKaPQ]r?.F/zVZz]CN:ok+2ptciiYWZ0[YOwh1F5jmfU^Fw)EuV
  *Du1xj9x/?qyDe_](>k>(.Ou@.O=9_@tW8TPwAbE*W*Gu0)S]C'emmB29>n&lN,9j9U5gSJvRiM.f$d#Nqq=ivM]@P*D>ozZK
  $c&;ze(MLM_PCGw6LR1myF7(?s9>Yd&tBJ(yQ+abi_Rhg6vV:pK,Of:<wvkmplY(S/=n-f(52epu[Hv0z@uwK4hq<60L4N[O?
  >lF`cjG)/l)(Q`DHqpJ,gz*a>j>(GL4WsVzW_v<.9$<dA&tB(3T/mpIf1=&jsgJ%w>Iuw9:Xak#npk0twKUXNoM1B=ow7^2bO
  n66li4dqe6s1XgH<(PK+=]hP]+&A81%IVbSTs4[BrvHSGad#xk@(ORxE>gflBO/8pV`ZkJPY<aU0M+=8VY:gslMKdA3tv[rT<
  ]MzJ_NroV]-Wj?[giSG-h4qVLHk5aEIXjuZ1`.v6DxAN4a/H`Ft^)ghZP^-9E441YO<%CT8$@1#O%CuA5fN:'U9P,Go`Yfk+6
  rP-2,D=?8z^?BUw8ym&5.PFd-J+>=F,b26-D_0^/(;;`v^)hhDHMq8/P2;qirc5Zyq)3^vcsSaYiUUNqr5H437I*Qg2<clF[[
  .;%-osf6/5w,vPCZZ#Bgv@ynW<-(GN*NIVX6Uj&.C6nB]mg]USr&mQ5FF/#NgsYcQ;z2TH`S+PW0-#_Rv5xq^'D&<qnm'XuzO
  ).'[ao%(#Hbmv^eg&#RPuz_eM#ez>uW_3j%x8#5.d>1()aN5x%<UfaE[=X,O?Jj*M2R>tGc$y_2=Gie'&gelBX`Vc>p)4;8)X
  Zth^-(=C3fT9/rGOkV=r<%wOerJ<=TiQRWE:,wVet2bhpWJh$SMTt`Wf>i%w]GhmqYuV5;s/Y@5fl7Ir(bx<_MSZ<[Kmi[VTo
  @c/6CQ29iLU:f',qlx%oc03rqG0lekr?^YweSpxYjcfKc0_)-Nj*H??JQOOZj.K'1$z3=8U@7h1mBz=BCC^fplczFvk=s-e7K
  BK`dpnf,`wfne81[VokM=e/uyE1<fmS+,wWLDXKE1OD2)o*-VPOeb2M)narCB9a#yBol,y.UAflg.KpPw&m3HS1ybu&fG_</y
  3s+XO]adW)0lvHoZ:TT0pc-2tEbM^W$HT:Pt$Zt`YYkZSc3Ll77G4[p9P7cx7SkCK-%Gtceo=/@.%SkX'FS.`-`svvEAI:-/*
  ?KJMY;qgLox+xqh>uaV[Hxs'6>^90zU-U<Wv-FhcJFQ?'Oy#YM1$urkZ6^5t+'j.v_`xQaPRiAZ5Rqqt9=5H,kS/_O;y)y;5#
  p^LD/6VD$(tR>xp0hvX?Sb(e4ujR[l1Z7/N2Q#Q1&c/[zyq[&R'ttY8D$LP,ORu)Hi%1iWEEJ&4(jyel[0XG&,rbsN3%>XmvB
  i4l6%@xnUDD`Xr6vw*[GK$1m8C6_`RqVvT%`ilp&i2C1y&iyR4Aj2h6+w0OU)iqmDjRD1BHzY'8dRBKw4/=aIhrrGghL3vM^W
  0Siu=vq+FCLj@:qehCBXnq.kcVJ@uu9DUq,IO7moiuFQcQUEBq-^YC;]<_TUYT[_(x1]lr.0(srkBA.*m-A=Zc+/:QZf'qE=)
  X6`%Jz8Ej3']sGaKMSV<eI^fumH=i3T%%1RR6Q)/N920(Q>zf<x7o3,^FYQNWf@oB26H(N.M)OeJ()5C$i,ggr>J`70];QBYP
  ODqj&&c<5`Z^z'.2=m%A5P.s%ef9o:9LnyJ,I'70gO_'@P<M0N.;8)<r'/^z+F%e`xi09Ks3@72KJh0=$Y(4G>;yyF_;B]QR)
  BToQ9p9v>MUPLX:1[24v]C)nrPCy*2K%MV[7mkA,t`PP1:*D`s`=n*j+DnBuw/Si[7J4tYsK*e6C9QXb162-E(M7VJIk1mkcH
  ;lj7L#gEJ@l(=2M:(OO0jQaEno^K&VO=b^S,/GMy:dX0Hg)xWL8Yq;0zYT99.iO3FANG-*$GT@*:=10nK7bA^C%G,64e?6gU
  S#RUe0F*2QMcNQ=tVR%[1/W-f@]CEaMviQrpH]s[/)@(C(XZn4-9EK/3J/#L]6U5E4Vr;QGOhJ4S.OmN5;u.4c2ZEtiz;.kt'
  2ciuc,d<iJoo?f@q0)_B)=o_4O^lRu=COi91g6igtd?r9V/_:6h5L2iN@halv7/Dw-n/H:[82&qVm2dJxp+V-5gIN.LQ%V5jX
  XFZT[(q:yQF4sg=`qGioS]OEQU%acNXbN$fYqat'pe)5o*z':_ROG*8e+yLS#qbtqcASDG.O=9XqFBZoRpD=<fS.XE]/6s:kC
  Hu0u44W-:kO;Yd;Tg.>qB^/Eam_y3*F4dRw$GKZgjuS@.oqdBufn&I;8f@f+_Dk-AZp.GlOd?0XX*YOzUl5OP#?*jCUZ@W89+
  5TO(BFU[k$@yy$>]GrMe/O[>-_fV-M1SNy.H:WYow0,O3%saNpq3p=bi;t'b+_FyXbzaiLVJ5VKe;a[0aY[DE]+fsuKh`H:Lh
  .GYnL(de.YqQT<kzAz(?jyX2G*4v(>S82v0D_#Su$Qi^.*m5PGxA?YJ'i3h9h]J8&zUBII6Wg44LyVZALx46^ti1+FmP0l]+m
  (K2n8P?gh`m&7RsLFC)/E;e[)rnp`OBNgw:1*'_ePnD?r`uTv[E5a:^Wha_=;v^RJj.W)@f=t>vO=[k^JR]ZmV5_VJP`JAlPG
  f-d6H(`-ppcq[Zp)eelcvn3X5(z&,$Q3PFmC[]GOkPy>'H1WSBXUtipwHlM)E]6CM:kG/20`M:$2xZw5bsv3tG6s)TV&ts#AI
  ?dt:;X'@=eC:ZRx>vm)PSWQGp]*uY][d[%[7kHJes;W*<0fPDy(1o#<95bb#ZteuJoy@NI?Rc5s1:_YbCHT?FR#f:KeX)dzPN
  =trX-/*NLkZ%i^zr[uClQOUvT@3]+4[As$4fUPBc9dBN&'g+7So,)@4^kiOCI-842vHSjQ)D8@:qF8khb=[rCm72lbdFR>RDN
  3gTO#gatI4;RamYa^QUHw&vc`):,$eoTI8L5<;,#C]U9=iXR4py(ZlA10hcrt@z*)/ImmIumft#Nl$-x>V*5/wMLa5,sUsO9g
  croKiL[pyDK2dks@X5[T>S>ee2=wT;,ar(vIs>5u$1ci]s@Y*+/LWR3Dak/G)SOO-0^5@Ov[19$DzaPbzNTORF;OmYOs^vC?n
  m/gW$i[AX=B1W5kaYHWDnEd<Uk-jb?MMu)[Y?-3$NStK^&E&efFX$.81F]wI_zV=j<1CX]WlGjb%HM@PGA&%`3+W]H^@'RKkv
  KB`yz#y[>2;_CsYcoJrm-0j[]40vF5U9?$l>oo35kwvQI>D6E(w8UM*]0,9_fyx=Kn(@wvOy_sYP6N^i3$J><B^7)Q?o6rgEm
  m3/%0VI#EHF;%<KH2@N7cps^Okt6/(Yq:giI5nr]Mm[e9t_Xj$Pu0iv_Gj-=6y9<ey^l>EG]?WH%knhUlgJVnlmQ2(wbekSsg
  qaD)3-J9P]C31[x%PJb$W7l+d?wD>Or1?#AW?h)zmuVP*48lYAouXhF8_GQOX'TX6>*XXvDVUL:Il>W9UsOZF6Xxm/L&gaa[8
  7/9Lo(4xkU]n7LIx;JfiDjzD@WVX-<O@8hAOw:@1fJ$AzR2#R+2aV[0A,=C3gTUC*7Ej7zY_3yc`K,K`K3M8t5LSTUZSU6'=<
  mnaj$c&BArznQ4Jh^O7=VGpg3i>#hNU^.Y#o0jh[`a^+/SE.4$Q@dFg1SB/?]XXjXlYHCHSV%f$))^&>;/&)e1dY?i'CpN3;+
  6Y=E;Y`W*kdv.N[Icsi@fsZW]32tjsitd=3l<prH@1fkql6M0Si5IA=ot+h&x3maH-'(JTLXVXdq:Z4',3?XQ_g5,<7m<d6Q>
  3ZF?nH[Pv?iAyB18)4RS:V`3+Bq)p5t>MMT,Ssus*01>q)8JH4Zu;>f[(dbmx9xO,f$u)1[ZTry;dgcKF?2*)T4GpDO7%]#,8
  G26q#C'Rk`[UGF;8KqX`4T$2Flsui78+yb,+b_)[=<2QX=F0h@g8ho19@kU-FUL0x:.#Nj.dneJAFH;VwwvWp+Ud6lO^VpkR1
  A.ZqK3',h<Xk.F$r&g]I2nHrJ?B:na3wIpFvakPf.QSG1l@&rN&*>-L+Tl0#nrB,&#6r#7z=9O`@^c.f)6Pfv)*sdvjtczJm4
  %_W6:qHEg/&7nWnF^.x>`M62+Fi2*L.tmol>(5wLsrtEdQ,kI<q]%mRv_,kKwl.Q]=Yo<oVEsvH,?<g;?9XlljxN#dn['pR`A
  +==&6B:1uwFv,)k:z8LZT8HwMZa)gLC#dYmdeDh/D15SrKccdA.5R^Ju2CO3t3fFC]@v``+xSwdm_6@B+<,2EB9cqnS7/Fv=)
  B0l56-x*u8RJ*ia+$zUZ6&kSESf]=26WDodm@'e$R#'?0N-<,(w]2oVoSXORp]P:r$g0G;(dnSo_^0iuJ7m<mn.jH*+6<0B-7
  @(XZbv[OGEE/z?vSembDgw*ZS[h)J@@a?Um5=8I;wx^+0;fx%KS3jI6>g`9SDEGP&Ji(tE*$FO/'tVTk.=XsB<VZA-=zAsMk;
  0dOn^6n>_=.=KvrF0sMZz1;9wY6>W')%ho*gfFTz-d*#u-'tw5IXU^pVwML$_ATD-c^t9c'xm*W>7dbS:4y_=#EG&xn6v:9M0
  )2fCFl,3I9sI*a]#@_cG*jU7N=+8)kpEQTJnbIfgFg*UjcQ&yR?U>TiVxwBdi4P2VPtG;8flTALr,qsW5]%OvU45mmQ-G9;#h
  dz,z&4.2qFP=77ri;Q-P:`W'RlJ/r:i.(u-0-R5arpf`pL+0J[R4^CstY&Rg;]V>>*AAnOLbAflYu:`@PE'y03w,YI&@.@xJI
  7)JOg3sO;0gLU`4FWlxfVz=D?5Bir308,j[d)>8e5`(/QBn]Vd8D..L+eacOJ)YumTGj<1,ORcPGiVeb^jYY''Epw,U:=sIw;
  jy_5_XGX_z6m4pq5^1ekBvX`L696h4&pjg_GPL7DP*N)VQ@r4-s88N[dQ/?GU(b*@V+p?Ll%;7oB+<Y#a@5@7y;9WhSFTw;$W
  %q][FI<fa61<V=[C%fDvUbyKbZU9mFobf)#<Im'U@;SWef+&O9Gi2Q'weU)[[0Xwej#5(GE/qS?uY0d%W)N(E,LR)ey)tJ7Bl
  :SKeQU)[/1kJlapmatb5`SKRPbw'KHI.-G(9c`lhg&_pSxtfJr[(55J2e#5;G:jzi[*/KC(/;/EP@^,fjxnc5qWkN5*=E`)g7
  ,m@b#^GQ-Jj?y8vFrV.xx/OOKAc]T_1?^+-h,[C6B;I^>=G0R2Q7O$9>LF`Hg;HL,3pffqa%aABVzEH1I)SbX10(l$*P[>Ygf
  [3e?Rq^+5FQEW''%*ualflzFTQC^SvJxB*@8TKEIH06P:E]5yyRhVgvFHu@4Yx&)Ll[9fqJRq+&0Q`nwvUkr<b,V1>jSD[zFS
  w=YlCk[.s#K7uVtqx?thq2iO<h)9/EB.c1p:+MX.Q]&E(>Kd@D;($QXNkImfH3p^^T@bv'dnqk(n@C-$(U/KOOwxMNeM,MJFZ
  UVp$.d#47St.m[js;pRGhv(s^=O)grfu'AXnwHY^o_B+jjlU9p=a?R&i%SI;#A=ZQ2FV]Cn'(TKARQW-aG7z2J#H,?^VXtX1'
  5gjk6Qhj>6]Ew@GBBM3Ih5Cr>'bts_CQVv9rwhf'9#N(VrwECXpPFFlM8>B5Rw1sVy1A2p9;-Kk3/>cV[1>qeuP;S^X:;'^Ep
  -AWgdj+$En,tY/%9P7zkr%KT5l@;1kJ#ARo8*VKbh6xMh=Ftc)r]:WbvsYqL<G@/l5>BY)U]F,*ai)m0_5Os*gsngm:s`3x7w
  +v)y.rR;CH%l5Qzm<tVR(s42LOJqY#MfCe@m-^J:a##XUlbX^GKWlILaR_>H@>(;oFn5VE=QF>5G']PLdlH?H]F@SOd2@g+uS
  qvmj:4pAF[M?l`0L5m+jV8aOy2z-Lk8WxVRifW@r'i;aeiN,+a4sj.+tTTsp&f(_n3^Ga8%TqI(g?e-Iu_i'C0DBJ3_<ff7i3
  NZ]pM]FbyFOtlq5ND8$5;DNgb*D8*-l%I:?zelakfp+<;tDu.GaW-ff<uLn7D5e`KrI[&obXI0+1x(BFjK5yL1`I4^9-8Kpmu
  Ud1Wzt<E*Y2$LpZ2d24Il-H9TirL3qK3ldv+')IeI9uP4LiKqP1&Fu7x4.q4`/Yi6PT9,N>'/C+RY/`)ef>7Ir_oFGbsOxm6i
  on;@5f=gm=/OI>cSRszpHm102'&-gTDD9seF);W0$-OOfv3N%Y(Jv<y)@w;V#Xm[uK/pLiyHTSN@<jZGwD+ipO#eXLzF446'=
  9u,HE:._4_4`k9mE+8#vxY`r>8-^1=?UaOfZj0JEkho^MYr8:5)KSw]Bf>l;y&EAxT-dv'Q?PV7U[a8)<SraN`UmHxhV@iye.
  WS%;lf4s3'Q#ckKrOmaju+%uzDI8BZ%Nff:0296KMuoVv&r@di*KszfB^Eu&^lZzKVArUZRO`FNG122?/%GdF9MtYu@,xC:v#
  .:n=6CtVtbdlMzAIhA8'2.R9Bit%[P(UM'wbjGDW8d1<bLR,c/(Q/@xd=U@yGWLB&NSeCzl7bTPLMw*dpm4;yMTL0y3bJQgsl
  >-,4o7?Uqy`]tqr=#bM_?l/7c+?bo8DS/1Q/=3W0rj6aR,XKESs1^5+Cs;$.gY.D`tL&17?Cp4;u7v%w]O.tcEYccU(edV$s&
  N?4abBN=BxuW?z.3l)M5<r.PSkgTIu-TWsZ6-;gZu0MGj%F-Q(Ec$@mn<dPQp6iVrq1+<.so3mwzayX=A;xa.mdx^fd2/c&BL
  vBsv+2gB2,NWx@3q]<e%qIWJz7V7;i,_MN14i(:?RD.G/wexiO]e:t&lBK;>TJVeY2ejSx7-xr,2#KzW@xqZ?sxSs]]5v6y);
  _0RDkh+8%NBkJiFp(fT0jX(1@Kkzu3@7:U)=@<,)^TR5,2mD:wEYvfsS'xyj3-]%vtW/ZRV>OZ``6-MSNNVjo:A3IG;RD(TL7
  bGP$f4PeU@zak2ms5*e'vj>#u&;Y&7Vb(ndM;3)d7rs]b<@>E7R-Jl--[EKWZD'k=+GFT?z>XvoHL%lBqH/zQOSW`@i;-+cT&
  dFK$0.66caDmv#EFt-4(@7<<Yhw?BZA*A'n@naj(`o+NUEyZq@D9TX2(wZS55oNOIQYGc*92%=Pd;FvneYGcFRBvcKI[a@b%X
  uNGF:I&U>%gEIW=BW$MQ#d=6'Kl8-$8mh>z?rvN6dz;mP4asWOg&hE)2OeDz>*b6gEuY4_0)`Ptcq*0uoUnlm7E4FKCx*0qZ6
  o;rRe::cl;%#JM_t;C'D5m2_&Z>RSu.G@gs,I?.<X,VuphZ/5h$Fa]lvsqua,lx:_gr@L?qDu_$sKq<GyYX)>1)s3`ZW7PFp%
  w2nldo5UFo05.gK()qEDto[_tShJ9=AYiwRluW0VdT2FZmIOOAJdL<)0pW#@JS+Wgo`Py'pC8H-QR2dNk7mPb7ePL4GDgzth#
  Q2+:X&2e+?7Eq'jDqd&MmV<b-]xDn+n^.:HUlPii$VK]zv,]pF^=>])Ion;elyoUnT5Ve'jZEG:+#]#0Ru/<L*laN&-2v_M9N
  u@'d-kc+EA<&W%/sKd'^a.&q6='WUfRiOKXSP;Q%uNd&%#D&7SDx/`YKP=GZ5^Ww*>0bL<fEa_?NI=`'@e+a@N$#FUWy:M*n<
  S+TMo>]p,K&W%gT4j(?-jXhEh*PPnb$QM`Ll4)kXm7Rv?EPkIW1ftMuDuM*GxBD$3O'^tE(c+PtD:?GC`95[6>s2w9kX9h'lt
  @d7TC`KtfM/zv@O&T+Yaoi95:I`_moQd#_p5>xvz<4nc:49g:dc;hpk&Q2g7Rd[ZnyFj096PJ7Pk0@z?bS9heEcG:gXU8,^&5
  T+g5gknK#4h_g.;x^,sS;u'Kh#;`t_r)T&`w,*r?o?VVk66?21-8yumW&hZ)[?bn#l98s7nn4_Cr8MEsP)50/nviP??c'pStc
  6GYpk%4`BU-+^,0I+2=F<,[dT@Q0Zsk>p=dQ>Q)QGs&Y2x)aSc>8fThiYmH%<Dl*oy=,Be#JmOkUAMbJoZG?enOf'hp.^R<Ta
  x0X.:9EMnKkAL(VKwmUnl_cSQ-6NEnFRk.>eA5VpuIi/H5-9uE%oNi>GOnh[YW[@UKOU41o>embAtQq;qOQ<3g/S/;OlpYWdD
  G=?y/X*u`-iPNeu9`zW1M#u>FN@=K>$b6=6j4`taTS,w[<kDfE)M_]qe*2[m_3ijqf_>iZAhZQl[T#>%<5b&D4rdR[XpVRr%k
  gn3aD1pJ(6zKuBDVlu@Mrb4fqMhP5q.ZTHT-w8uI>[ftXC1(`8PuWq(;9NnGWO.>#SX)VFwt@Nj8VuYJx:F,hMgL4*rBUd6`.
  0Df<nu072c</gpEAF1TupXOHKqx^:a<>-NtA$@NDAb]yf[Unr6o;yYsV?'lgIlP?Fk9+p8n8t5.BCF(hHG3J&zKgV8eR0*cA:
  $4Bmoor4ojeQ[.[/pdk9E7IhLmj0[&>qhO65;a%hT%[$@Ohf>BNgp#ciIY#jjC1>9O(fN_a$xDU*No/cc1U:T1ZhX^KvlF%0d
  k.TK`p;.kEAR@O@[dy2m$v`vW-g&fm,7Bb'E@Rnc$bV%oZ/Q3s]A^6c6<<3z5/^fIfvZ:$u-V5zYP5:WJS;p>4z&S3@uORqTy
  g'_GIoKjOWy.[M`NYg'D@<&h1p++UaE]?`t*smJ?FC(R/qZlWEv)aN+ID,_9p'fIy>EfI.yD96-s`ebSW.Az3wAx9,imA<e32
  7=:+#nJF:rC6/?JeACVbh8-zdRCKm4;8MILR`^K8z)iuGTLKw<ItdEJlEqM&=`]?A1lY/vw$(/fVT]@iWo^4BIAF.Eh(5TwWA
  TwmG&'D1XpQ$=2'6EzT--%6Xv[k+_AGPFFGh+V+5L59HfS99t?$mQVS1DadrPe[%-^)i#v1_A;BjS>5U-J4q&pK28VML0t(On
  ),z%-IY%2NTv.F3TF:d0oW<c-OC@l,KF+a2jJK+&p#&^s,h8VQ9OUuB,4[x,EMvqQ(%R>-U,9[JX=vA0,f%`YVgN^6D(:t%u]
  pA*71rHTLC%+&ee:=:j,x`E)=lmadg*yBH0Pxi/:.ILI2rg58N#lQ&cP*@*.FAR;]EygeG$RTs3pvQw.y%bVq'BHAq+ze+(i:
  )lQ$Sx8v0?)vTy$E]@6^.qMGFvP4t-^qO@brJwxa+`bP9rHc3`Zn7<B5*iuHNedJ<)Z(8/?5i5_cc9nVogW.k.dq>3kh/pV+f
  kyBoAG3y,z@Iym`m-FokdZy-<aI'[k]^J?U4KioI;$RF0/Xh+G(&nZRd6I%w5/5:XDn/r:*:XA7z#$tyPmTLmwM8l4W(Gt7TY
  CcRT`j+fEKmYF>Q]Vap;$Bro(@STkC:U(5lc4aP=@DCzlU$qMF]pj&nZp=<35,2v&fy&vc=J<0_SYY(>mMg50]w(pizqAHfL8
  C[bJ=U%GDV.1^5:PMWiwzA;LZ)R94u]26OO6t#<wohOT$Mmc#mKKSDtP%]`C*5fhOGMCLIpm&5uAurYr^Op8)41*SMuMpa+/z
  LXD2w[$.)#%%>cLXvxl]Zs__Uk``pnW]Z,ocPnqC<Gim/c4rg3qwex?.w<j;<?%_IF1m9xIr;:V`26N+gqXtm,w_nf'NoPqfg
  hQR:e.rnf'gJswMMO[ZYVN-NRI^Gd/K&Z5WQ?kUXgn*nl;':t.W=Rv*nrep*C/5cT5<FZG`ZazCk63#=3QuBP7g,-#kxz>C/J
  '3Yj+vLm1/&,nt:-o+lq)IB`HwP<j0zccbub8a`FB+HD+HNgW]L(Qz1p&spl7D(MQcuC+LOb1Y>`J)4/?``V)m_CsDsVc-qI6
  G?d`a;&&TVt15]>53&s*=^xm^)_N$[5&PM`uT&#Prh'@<+hEM>ac3X_$qc(1bQFq>0k6%vXW$y%z/1D[n3%N(%TawZLd=-_@2
  noAr[u//y.DoIVIs.ilq:L8ttz^9GDuqO8HxUmtuPfqdvgsDrgp+3NCWK>yx_a8aJUMXCQbgVm1n<vHX79+Kg)%ANn*Xh+4cD
  L?K68Hj=G05B@Sf1:PW@8dsnuyESc++eQhung5DcZ30QXjE/)AU8Li@K5j`b1GZbuT]w#KstETFRjR&U<@50Au3/ALS1qtGcL
  S]VTJHj$Cyol&,jw1Jt%z7DPO4saI/4qT>VTxUa_*sPD4@R.X]Uag.^w>DWQEz;^7E5,Q=_JVn7J-0HSQ@c[Tot79x2Ev[Oc,
  E%rboe%9u:P.GS5SL<Wgb[t;gU@/$?2@m(g.QVTe(Qcl-tk8OZL_%y+$HFyME%y>XktN#8jbSBvBGqZnM5+e:f$b_BS^2N0Q'
  +:YvEMIxp#pIRt&NkG7h/A^e3edtZx-J^=IFpl_/fhHW4lP3aBU@u3[i4+u.mxn4MW0`/XBBux946;Tyu049Rm#?G2*QG,l<[
  S1n8ay8X@d3$KBYf3i^LcXz<BE3dt=3E3Ab[@A^XVY%O8PihWDDx2caw_y$R=R#Y/,9SreVdF>T=92w&?ULJA0B]GqECKRgaz
  n>'/O1;2'muTYS?rvx[]7zRaz9R$a#gJf,`Bj.+1>J4wiJXo.x(_UNq/yT$KKxT4NuFDIPf:'qmBv<DMr82zuvEj,'5GrO3Kr
  lvrW^l;Y[Xh-:[BAyM/INkk?Lk%XQJG(bI%^S<p4.gOd/hgT[*U;g@%):Jy8^z(V.r0V_q.Bg$gaX/*w>A?]b?.faOfH5^;qT
  2%pV>]Oa(G6u7^]jxB$LqFcPr^/[a&fyB4z;I4IlGV-]U4,0lzsT_$q;X?KZ&R(ym2(iaP5D<;:PL/G7Py[FBWrO.z>]E&vLr
  Qd;x_rB?/Q2okG8W*1+J,h=;xUNcm,LH/MOd,W#Zpe`As3tb;sCh:WP.@'.G]/'GR-nWx+K*Vt]SB#x`l?_dp2]#p$*9Zb`I<
  :ti&5P[@PM,auvCVsz&o$Iz5Tz+;<O6[=X%`)mkh0TC$`tQr<H_z2cUp]gF,k.&)%SH_-x2+TRJsN3.^?<D#Tj<7*k_<$j1s*
  gSdaIn+ML7,uB(3Sb?ARV*WF5<SG)OVmMY[l9O*-C/Z*K?;5QIoVCX=%Td8Pb`%0pBx[C7C#ZG0KR%DVrxtcF@sS3Em:9<`4O
  AYM02GOLL]K82<8WVU,C]K7wn>I:Lp-;fM<oFOUD#cLBToTh1Vw=^iE`d5/+S@6D<#7cQSTw`ww,J-U(O$.m^rhcJH^NBTJMd
  8yh1>2f``pjin1qOMI+rdfDZfNhrhHNPb'#TR#3NrV$T^Skr^X#NdH?2.[ag:d5pE'yL.ijE*:b*2Ve6u6bRa(wQ4(;9''XUt
  .Ig%y()enOhNiL7J>Sas=/,GU(nG+#]Zm/dm8U4w=VnJSh<'&]*.=o?1ME:o],p:)[@x`H.JC;W:9%JWWN7^g.+%>QeLxBOhp
  tX[d2MHe29uwWwCmHEA@kDgk$bQ?6wznJTY's[)^ue]*#TG-D,91s)y-qY%2S%R8*P8Idf?Pr^n^z&+9:mZjAH/-/D+;/`s^8
  _`S>;B@#k<#UsrXUUWd5MP0?er478foYQuaZ>[M,_/1Vd9#F6i+b8H<$/OvB4Y%r/@t]eTCc;4,A1;rbL=F6UZ67j)3wEQW%A
  21-XqHAsGRjc7_@'w_4ZFikL=B+]rZPfj@nVTlg(vt*;^j,FAiT3@5(ZW^.wupKoo(r1g14D34``(xqRjhiM22T9ME9*m(W/,
  EH$nervPB1S+1hcPynUvxJ#K#l1:](#I<MgxIO2r3S1Z.1JREoMQioS41G]Z:ioe@h9q$2x=GLDb7kUd7I3Q@;J7m7q:[Ou=3
  lK.BlH&F2Wm2Qo0%5yx:x=cLIhWqJJV]rOIe*ZRxdqD@lPq<q`cV;&TA$e0fl6B_h5K*X)l0jFieCQ0VeBC.*5v3t7VyRrV/g
  ++U@I?iz?TDPN3LyE-R6PoaI%z%X9$8dt.qLh?rdhgnYBFD+8A9Y#WU@phzlA2-.=CPDmTIDTPYnmM*&8bnS'/=-D7D[+aRgo
  <Vaa>`:wO*$ZtFd]#BS5.F/y^K;$0eWq6_'?ioy%5Zx(qH:vFcE76Q1HziiVT/qqZ5A_LJhUNlr#(T42eIN0mSg;fLVWH&E2V
  QuW??ud?Xr1Px=<Wo(UZD^jJcW]zcAa.eWCLvOpWG0n1eNR:4oKdFpqtN9kZSP;%Pg:8)]R@q9L743x_hTp%fQa&@#961Uggn
  CFjS<>ZA?L,4k+e)ao@3@ty(W;xgH*72T,bGt:Q)MyPY/zTz6wt$Mg.:u^dTGLYL-UwevGqD$+*/h2yr)SMFHOt]'eVRqIYlf
  'gM5eNe^4LH8Yfc'ohF=2U[f6`>C_rNZW<Dq=BRyW@eaLy(v@ua1';emLh2/&.o>e:<4d]W2y4T3KOZ9^zn=0y&p/&t%G$&,0
  -BBDW=qi=4qMH%&5rNKi5EA[xzI])tw1fIRLtO/gv;+`&p?@)3?b`dAgvgGMcOwUJ5FyHLDqpb*6^st2vm2^R^z0mChKj'Vx,
  ZB@b(u^w>ybEPxFeVJq$4G]1ya&%(*bPP']5vBtMrGdeEEo%[OReL(hT/z*uJ=4d$fe%f'.ExeEE[z_k@Y7]qU1'U6d.m)PFk
  (E/)1'k@uMur3F(bJz+%)8ZDJwQ<Q*uoBpYYaxKnLs=?&N<v<1tP(9ymaDA&;A=r<l;YY=hXbHH@5ieI$Snu7+mZwRr#<OOQ<
  ;S'tQL00%9KNbu,4uueJQvfyuD?[]qeTpQdN)amSoG#Rnd1v;E@pvfhYTa;<mQlRv(LH6d`E_pUh@:pg*Lie5F=4ow5T@(ZQH
  C=zgf6bejO[`pZc..iGj]%l:qnP0dR+E1gzWp#1`M&vib?Q>=]1u6nDAO:gcMhu=5fiyb$dw,RS*N+SFYbgV+rrf9I&a;u71e
  88aeZ4ac2TAs;5-?nyUi@A]y<?R;6vkbG,$igbDa,_CzuXD6+;@(B2?TGPZQ;>#2l_K0QDcCO1?tdjU^.Rhgt54WTepW*`i9r
  bm0=90SYj`[up2=CX,q%W[WhA%Zhd<qla]Ax'eqLSHIh:EW5d*ZeBG.E?aN=%bl+M7%U#>/xBwKQhU^g.OadVy8@F+z#Uk7'5
  zwINbLb%F9oPV'QVPICu>#fy:#A^GKYF+^<,q?)iyGQUZ6YeiH0S),9V0H&vF<K(rr6UM.+]vN$S8$0,Z5;X1AL7PZNEbzx?;
  LU4D-3id7Oe%J9&yIIaA_.om9-Amk37&zuZzH$AYVB^cZv$JQ4$psCWKw,'L7]#gJ%P*Xa+$Hx6RcCsN>*HG;@$p3Im.Ja$P>
  k@3Z^Yw.KXBXXkY,kp^86O)w=#s_<%FER+z)<b*5ZZzimAHok]Ns%<8q1O[k_hj2cIz]v3_0l@8qjIC<qV,q[hq8w6e1?eL6M
  -AFGFYL+O]gPpO>1HQ&n*>@mccAf>TnTP`V)PvDbVA#eBIeDX,<>g^<d+Vp*YnTK;icg^O@b>wS)<N`'x.ZAwKFU2es@Vaa1y
  Ws9@0iWm??Da6+/w4Strz2MdnryQfnf4J;Gmm.X)l_W2+0rM]$nK:(JpU?L'bT'Juq3=[OZi`cllg;s:W/##^O4PA&-k&4`VA
  a0vZf<gdq.zCubIT@f()<[SdWN-[inY[)nTII;eE5`rFWLhg#7rm5F#Xtu,jB-xi[Ly^SCGifMgC?C5(-I;U2o+$,A7Ny[plc
  oU#,:e+u^=p)-Wsc*1]#]W'^8KFt]+TpO,XC4s't(=0M1YVp1o1(2uA77<#WZ`Z_Tg0r2bbaT*]%nVa,bisPEV8blX9bQ#lf7
  o2xUTbSjF*^+SCrcllY5uPYv4$WC7T?wjp&2+``X/;AQ+Wm$UZ+?RY?9ZQa:wNb-%^Emz((OCHE_==G/x?dHz%z)f6h(V,S:e
  sh)IbsSk/vf7]DjRdK5HjTWGI-0fdy6xn%3fo9p0t[g22z'PDJbzB7VQ=(%ufOl6(Y8AzOjR:v.<1$dKuZXCAng-<Na#lh>He
  //Qe2=L1C9RrG):3TSkHO2tG)0CedrtACD$<b)?$IlJ&ZkTuUe&y_>>$hQq(z24H+Y)rhJX0r1][<[MaX.UU8$+rkLe[YY*.N
  xnORabllaA[*x$YcH*ro-rw4%b:Zo;88`-r7f`.z7(kTO(%7ww9t`OIIukbBba@+_Cra(5_zZ]Yvx$IHb.,uX-a1H@'z3Zbjn
  `_^$LX,*&fU$xGKkF:o/96,JtA8V2*;BvJEfqk+*-?qz=b6gK%ah/dURMJm'?Idnq*5L/Orqh9lx8qW$23NQ6*ZtW9BD7e)jc
  K1+6a^-X38mDyJu=tfrY],^x6yrw`SS84%+**W1]ZY>>;zAp:Z_r?dnMQY%2vU.SmfWZ(o<$*yg>wV6n<,.WMKTLa??(>`rLg
  ZW$I,4>`PS)iC_N0b/ypbtSTjYhTvB;Jt`'ws8w?OX=dXQa6]VTo%g,u;Khk.3:1cU=_+ZO:0Iok;OJGddY1+I&#yac6$Yp=j
  K9w-&VK;KN/kR$@LVaXlQ^6_M-Bx0MATSbt^`cdh_$0*4NzkMCk?jvXO*8,b%ELt1*W^wzf_Vtj1(sD=tJi-)'4w*-NyrttTO
  VR(L/f?Qb_GE>;:Yyy+/1gWQ8mcpM$73/0fLK'8:]xCnO_Ci.x(M5;^^(w_&on@/@@Sb%ygVsg;0sneCPZv>0)Ku_VC5T;RBz
  Q`w2Vc#06_'/VAm[/S*BgkM5y9@1.'AePyy3$G9zWO$xvNSfxVPXVF(R7?RwBux4I^d_,x.vEUcBce0gPu)wUFF/^SMu'5(.I
  8*aW9lV+9k&e.@]_E<,G#K3)JvRjV$vx_,qXb#`_Uu'A.cx#ID)dp#EymXP,-M),S@,IJ8NboOwmSZ5_L<Pc:XWY..U9*uDPM
  AFIAL1U]+nZbCL1SGKXBN;T_$Dib+oYo5u,<DKVr#M?3U_wM,8m,PyP^BXD&&a$=>D(&yS8PwdUj)ckJH2n`z+<8yb0pZx;ko
  C:[3&6h8./v1'87@`&F/+/E$`b$/DA+It`rqrg^B3Xr3PGN3@ffKh7hH49bLv)U,Hdgd&vrEL2T,Kau9SMM=o5<)frnYV#iD*
  nn=xx6A-<JD]S6.MgZ[97g420ZY%xCfa2#RQ3sRA5J;4lVksOS$.7&J<*E+:t7#fgVTplL+CB7B9xed@F3nanf'GRA9B,pT2+
  <VmY<MvmjN'^bRuw#m2#kU8`m''EK06w3O^+7+](j0lNR2^'<#oFxmgT9;#,af/t&&gg(T%DfrUeJ+np]c05FYi)$'E@%'IY&
  aK72hl<%MH'1w;TeY-r+'@9oS[Yp+z^0Mm9<w6K4e=now-o$Z,z/5S6CLPxW@.'[M+BpFu<`3<jFo]d=d?FMzKZ+,VOb&h<i0
  ifKKQd7c&/TD+nE>cl2aFDW@9U-:y*`e]O-yEnThwc=bLoCr:g[rp:U5J,_1`b)$5-LlrvlLoY:fJLUhanx#qZT2Hm#)gjgM(
  97&4lrFIXAev9NS<43kdmI?p=p1)<7lbXQ1yj-Vn*6)6BHeRq/O*H@?nf$/@NxEuBCD[;*P`0NYf$>]KLD;Itahi]iam26nBZ
  U4Bh'VB`j]RtEzy13.`,0l6mbyx#WRZB,8]ILYu]UbTbL$)hw(79?)qG(+-QaS&vzfOp_`H@`/(%GeKm0UDbjV1eX]+'jK3UI
  ZfH).w$,6Dg+s/ITG[Q2jv$+`YuLc+Ga)]+'+PXR^jVJUCn_[.bCmZWi=H],_%pMN;Rfqt_ea'7Y1[M*>%s*Vo#FyWqDJ@<R`
  X1Y$RB]4tfb:erBy'3Lgdp[kY..vI(esPv7*JStD>.(&#(3UJ+3KW8]H;t@))3]FBuX:=:mSC8iDkZ2)F1+<6aG1xXsw184i-
  8]MlNMYXFAY>7`jMC@r<8h$rnyVylr2vB?EZWekFG+]RLbUi^Egu/,My8JkhiBi[=-$mnMe-Oa47Q0Mj::Sj^yb:=VZw$;Zcj
  qST$8d]q5#>4@SRb1/Psd0a_UNc9RstW[83J;s2>Os='2[^VOEx8K=E]r/)Kt,C3s8N9kO9BlR#W;p#6BviR-GR;Nz01OwIrt
  Dmft@Qb:zEt327P(f(4me<<cv>$?X*K>I:4JFa;,nfBRG1tVp;KphhPX%/7$^Z,#zz;DFBI$G#;vwY[iA23M$=No'1=-O:0sP
  z]hxSfR.KLM[C(;x^9ixZA-<ZfS8s5H.ID01Mf#[C6xWx<YpoUweP<6@w&QW*@js)g2S1xf:ZFA?^twpw$Y7dU$*_6dT'?FN#
  4kLT3sndx[Co1CQ31Q[feb*9IBYIR*$'D*CosM(7Z/Ja9nnh(LjmLXIfJ)T]iklueP[fBvncxxOU#a(DpfXP[#L^wnE_ux'>V
  `-GDy[6]:M&j4']2LhJ.i(T]8Y4i;$&:T@L<u?>4Ihyj))DPcEL*1<P?aX;?(7EZ:h?X6s]zRLYRCz(,^@fHPxw`btQ6o^j/p
  c]U2v.:?S9K(:7%VK]VsVVd2KbWUQ'2tw$kyS.hXQ')fh'D@%)?C'FH>s>&)AJf`XR4C;xKonLpLJiH8#FWy,$mN3b*F3iH'n
  s.j:xo6sKVt,g^z@9mQO1$25'Ly5Uo%'P1&df7cm,P_S*,<xGn=>nx&6tLL$Zx)&>JxcT:FL#)wDgL6eJJ==..wY+P,,Q5mcn
  'W4+O71(B?8/gys%dLD#%SB0T(wk14H#2adS-w#fo^1oR3.O6Dh+bw^XXK05*:@%2Ng3]dJo^nmo?n1`ibvCG]cG@293m=gmn
  qPAMpJ)[z5YL2fw-D<E#4G-*Fa5mH.6OU4,m(,GB(DAX-p9[y:M?Y'EQ*Su,^Q..n-MgAs212+lwKmC2GicskSD7vT<b2cQsa
  Y.K9I*_jAu*y1B=lZW[q:8xnYF`$pL>Tq=%MTG+Q*9&%?_PBn3u^X@ss$:Y4H5aJ'*YGg_Q:/^Zv[pzc=3b4R.X2?WYf'OQ7M
  d>?5p&o6+7*^k`h[x2nlucGJ4'JRtoxAlL<6]:]K%pGy@*AiBx8Z_af;WbcHS;6:UJ*#i<40@iU.&P:C9bG1@/z09&uY&GjS:
  V)%j?C,;9<gwWE6&S+A)JQ&7T-ayzpm#0*(Ja)zgbNiVlg=nVbtBebN_%@=I_q`jgk;a%aBa1,OtuWJCp]GmSYRPJWP#-LYVu
  xfC/:$9DQq#oIG`9jP[h.`Jd*EkzB=xxS+L7KHyNZoQs=FRMiHW`_[uMN_TU+x2zme^9r+)aDbjI51A4qpDf,:cGBBKz/T:89
  GTJt)%&sn/2q)ShWlD0XZ8gFNbcyr@dns0`?,(6GjVbSIF>dgI`v*athhp7?Dm0LE%,hO*fm(8v1mY@m1TOh@Yt44we.ykn>g
  eUH5UD:3'gckz=Li_:T3*E2iT`5qhr=itP65MP.azN6c`6e_>X3#;rg0M*lu_fzdObCAdvndBtus49$pIg^]NZ_0hY;=VEj,#
  PicT><(,ss6$[r@*]YILyW&AW@9q&+`lj.d,-kDiPk(5-F*_kpB5w+;PmV6AQa&%KDyY84@7?4mH:i^?UG)qwp#7LsJ>c$,s^
  >Vv%?BcSbG_C]*]5H+%EZ_=E[%?eO?.Oerg6)CBWkwH>H(Oey)F,PFkKQdi9N@q&?&Wt&7yBcKgH==Ln).a>c&,^CU@Mjn0Lq
  [u#/f^0X6xW1s)ZH^9?Orh>6wU<-<ea/lZ7F_DH85LfBX6UGS8#^`VA))h9gEgvz1k4KMoA*wQ]*xHWcC^*G2VB2koPpqua29
  )[qing$Y)z`qS/en?Tc6UV1T:R4cHH1yoF)Ra4znb0lGy(<W6+2O@]$`O%j$18d]IWYh2&GYdmJaM2J2Uc+%[=uY_%/1-+4lH
  98@*Oa_1y1J`BAc<ygRk06r1L2gL7%MsA47..bh:VZ-z#_z(1:;cMcISw=3);N,ZKC'bF[<A@O=m.C$O0)ElY-Jz&2/-n0]=f
  b**CfnvZjLL$:=`'?qUGL6;O6t9pfV=W50@?o=?OGi^$dr7HRK6vWf@L)#BG7@DN%^eLix_>SUw-=M)q@[R'f,<xTr%1376C>
  JU1/AZPXI7Y,46Im)oy2aC$@%mc,+-D+nOY0;,+Yfv.&],]Xvu(LR;lmA7[ps9AHGzYfBa$&Ze4/f/;g&Mu=d6uHE*Fi;;Bm8
  bC%g^A(/?tkBS5,XEvCGJvf%%3UV6GwTe&6cbJej@DNTmaPfA,Z3>o^5o[=Jjex>aQjz,5rM[Sg?s3?rr18&VdWFh/f<J2q';
  7=nC;3P;xV-QMe$:S<pTw)G`EN=:$cG0Ht[j3P#D_'Uz.N'_4HVh6[`<,*Q+/;=0u5OYX%kVz.]:*v;4E)Na&okpk^EF;9Aq>
  HbF%vVP@=M=>2i104<ep_VzOY+2z?RX[&mFl7RBK7+06sjW%n=K/u`OSlZt&SH(#pbd$:Sd56[*)zD1Ak,[ykY,%AeG[BnDnV
  ]:)w;9e_ekwg,9T>[Rk0SUIW;T3v<26JV^(xemyV9wZMKn]>NBBFW<fyxBO*z_e=g.tvqNzL<L:l8k0f$Ju;S10@d[/M2ODRi
  >JT$8S,xH$=0[CH`ioP8pb;gD3[E5'CuP3$/_dbIFKQ#ZpqOup1NmU&ZE[/bHN7u,Omql3eXX,xzVt^*(RAYmSe?Uh>,ax*`_
  f$`I9`JrSi,[iY'47oP$nk5fm_0rM'K'[Y4$Ars;f^e8Z=-fE#_4`18(K;mtoegOL$YELgMd2qGU]TJ%*-)kKEML#W=%t:3$@
  tCQ+$iF%v9A(Nr2]R*#@tU*K56;uZ83NBJT5uIv>B>WvCO#YR,.KEQ^#)Bzc:n(V<nFb5A7ljh`pF'O%B[0u47511RWH$q`y?
  wLrj%V$Z)Xm'f<]aWdOL#F_,UkhY:AY*zXauAd$v/g:r>t^j0>t854E@;S]%aOSs#g#49%MjjD3W(3-oS<`a[YmEgO:SXvN'@
  TuWrlE#$lY9U^EuQZnZ)m&hkpWG_BWT?[__*o#7iGWr4Wx=rSx[^+]0w5uhnL3ERkkv(kBOWhkvR_qxlZcq)I>%>aqmhfR7MX
  XdkLB1`e7&4'+l19PF=9vTB)a$,IBn2A5CBqH22vt@.Jcfv(.W?^ZOxV[p:x==w^:p6W)F6YIZFHg0C*CHP^5z][+5%[139zx
  F9LIzw`%,G$u`0z`>(fxZ6=A'F+.F-QBlqcyMFQmx]k>FCF9BKt&sVy_cHaR5H,)AMv2voou#cp(o/s5tqU$B^a4^'GT&]=+/
  g2&1%DM,V3`'b7MY:cWkv4$=6RLiCu<7bHiTA_A@eun8hZTnxMwAvcsLE?a8B>:C3Ow5J'g$Ysso=LdtXFtYgJs2t<kE2h_YL
  bBd6x[rqo=u]srxs]4T:pg&?/1)O`+]he0s?ga4@4d2w0]n%M1X`@W56u,zVhT-(&,Jf<MZ9(e[nu23+U)Uk&j7]T&tK'UH??
  5qUo8vRZjct#uFt00RV_[KnR&^,lH3t:255.omy[B7-k=NZ`B71<AK(]h>5(i44[L)R$^XDmt,PKC'GcC'>DVeb3p$mR*p,jE
  dR7sw=CDc`Uzb:E3asLu]s?<]gsRPq-K4[TL4+9BQ:;GilHK;gjA>;9'fJ*i5@<SQHxmsQ2u>tdjvmIsGWe[_v6-6&8w-[`,^
  C&5dH]xxRnUj_Aj$3#;yY5ti(q4FpDw>)u9@uGpLp2QId;z8$V:0Gg2lT)c<r&g*vIbf?`.%3S^Q85.a9Ioee+Xk_HDf:ORA8
  0#BO5eC'Sv]_CG`fuK;)Ifej'@ta=UIVE$<0^5[wk(%QP#>vr4;,Iaz:/nT5pZ+w6uRk>D&Gi)##P+DD1Vv41nx6O)IFUyysN
  +,j`Eb+X:x],OC`u%g>oqaWyHP:lVkx37c`kD6?E5c&#&G*YF]g-pSNbLK^xxrnFLU*;4'Ts3J%qtJ/h*:r((hI9XwGYTS&iD
  a_*kRw$P%93A&H?d]GkfS`)vK3JcX.+Rs<`*#@]40.u@Y_9Jd`&_:aG#GRkdK`DIKHa`l]PdzeL#U^*,-n)S_xR1;UK$E:,c$
  a]Ik,7-h>th2FU[o0u5`2'HP''V@,rwiGqWM`s_'tVI&eiP7Cwkk]tD3phIFqJ?.iPrKEAj=mHemd?7<0g&#.kNMT3y9s(09K
  /`^:f?yYbynCggmMXez/N%H2r#'ysc?h_mC,N_zYoHP0pL]jGHOHar,,DTdJhpqe-U/rrj8Lvs#cIowW_+s8_jFbtzB-A,r&?
  ?1h2#X73nvij<8Fqp'nPW$ug#0X@dr3N$WdpP%USSrSph[Y)wNg&W5%'d/^lSQk0AI2r1:1C>3,o4s&xy=9f#UsaX/:BK`8/n
  q6[o/DcLwgsqt;GyLDWi;i]ui_rKh)LPTjsGkauV;y/gA7^q&Rx8MNH[#'Hgy/<c;=H27#/,Jib-9-LmE$/$`Z)c)L9Wet<Pc
  s(=,U6x7+u=Y<VA]RU=M'QWsCFb>P,T;Y$j_c1*OcRQ&KTx`Wl6.H7]I[l8Me[$sjppxeG(JnYU);JUo>Xy[eoWB5%G^l[a-%
  YmBbA64:oZq/ub0We,7JZb:w-1FEhsp+%T9HvrZ7<KnOMUM=.1^L<'b<ZVFsbg&u-53p@UW)(bj90avPu$m`7Ps1%eKPZ.@P'
  SqhjrYRFcGWvy%69=%3o%L&B4.*;Ap40BsR5p9yII^UQ:aijuE2w&4Zo1$8)a[$s6)$B9)Ty_8.[q(b#7Am]&oXli?ubkR0rW
  a7e8aaG-2[NZp*jSMB=PV/iZ@=U#PiX3'1(F@XQ679+rTf8_eOo6kmo?6?e=P$zdA>j$8)6#1J@h@@ho/8Q9^G'.(hSK2a0gp
  SGWWX3F+fK8M=2*2zIxR:^y?Qy)oG9FIIl?Ajs5FJ/[dHiZ5bOmoL@TGi[RD=#D7A?PW[B+%FIKF%l8WQD#9Ri3lm`BJnV-st
  16u&<t4Yg1a4axI/#@G)T/r9,Bs,yA>rq[891350eZ>%^eW3Ppp,$^>w0YO-R??a[cg6TlX.Tu`to:HGHo`m4lKb:9DO5w?@X
  L/7ZRdi0#iw4yu]*NUU:xnbMVkzU5^`h6Uk,)7^LB/^bl,%)EYLhXJk2YO-m&leLWDfGO*9C&Oev>G-q@Lv@S,P6vG()X3&V9
  WcwMR/QMEAtfu;rF9C2%0#^dPLC2+[OkF^<$>?(5OS(1.$-oHzKa-((VZ*?UZ[s4k71.EKmO0/;nC?v_HrNZaPO0sd6;zeO6
  I#7FZ8[I<W&CD[Og/f.1iK?Mv<J;d'>,VR%#40r0B*Ls%/,g`D+vmf/.O7a(7@xZga8Lr:0VI0VbY_fIp]Jh.xg@N?zzPXMPB
  .$wL%-6>Yg^@.@A.MXfp$,RQlN8BhX8#cUB,0Sx`h]G_Jv80PADbme'mIp84h#;wIFn]mgt;wkB;CR;J+c>8Gyj]H]KOxvuP7
  nMh=c*/:8al=RB>lXqY>aXO?THjR$bua1Vo.,G/nL2Pb$ufqV=v&Np%J3A=BDkT4LsFH>AllS.qv9UASDB+T9_r$(`<65L$HP
  *w3m5&=kJig(MA,qH>-CFp.VefpBN]Ox8<pek`-fk?/=dp7Hs[co,hH>c3$wkU&rZHpXj*Dc5GcD+QiBWZ2jb)U`?,+w$j,kQ
  jKD#-^8ft2YK,CVC&u`oqw==4X6P']DEkdW6wtu*;+Cd)sy]k7V[(g)b3]FI)L<G)3[^bdhI38(6ZNva/4EuAaZi$j,WZva-N
  6#OC_q09t6tbAx7G^aP6vC)wbOZik:^rhJDtWC$&aO$5F,Q*3((>3xkzt.`wyWR;3vJ)W]MQ2t-l'8OGl#zsC_^+>25D4O&#5
  +c@Q/&VUFskH$OT@]w4D9m$ZD)NxR8t`OO4Otxo6]Muy[`>Zq;[24MN.0q=+<%vXrXUHX6ki:Q',6gaK).Y_.x1+Q'=5:Aqv.
  UYzU*@P<G8ObS?JAVO[Zh._3%p5LCx]gsrkLH[T`CiU^[xnoz>ER`w=u2^e1q4l'a'&QSy2E+5Rk7yIG,jM@inv%qW-p^Bxd
  M#n<[3TCg$^.M1F(%Db35[6vQJ+n3_8Pvv1`lIDNN1d>8lzt42DGKB]#IC:R=JXShTTvVmlQB.v4=->.&NGs=[:_kBdC<fHzP
  Xt<'vDRGPv@fJ7Kh1XX?BfIejBM#1gI]_eCvr&@5'gI:jma,XGQmccz%q[-EDntNG]oUGZEXICio2wi,U55z)vJVo:XlcT.r`
  drYJer03PdyN<%Bu)+Bw(Xidz5r&cy7(^(&BAj&cJSnnQnftLqP-y43beUgYcwfxa*LiX@`@SV7OCm*a:rNl,4Sv(*74]p&0/
  ppcNG$V5[G,:%:b<HK#iqhlG39tPbiu5RL8YK6skN%yt%A]r>06PMZ#<0?q1F6Z7A,G&N70BV5k9(Owc5T%FE$@2<r7u<i,-r
  s;zuN9E@Zt_S+LhOA:Fpd&%vl'*c5&'5k8IGf:As)YcI6m;j*sm42K.6xkC[d>ZT-0^r(I_'3?lvD(SGw=2c3*BSe=v.a,H(F
  XKob9yO&y_)q;rjy#w^fRgss.C$RKOS?C-yhR&sj_KTni&o'T;zPchQg8UEn8xz6mLc$G9=J,J.(O#2^S4Oaf>Z''Rb7jzQam
  o81,GT3K>WQg3ZV-wX-Y&SElxKw@PHzL_oG7v:F0GZ@Uv`Z1c]nqE,cuTn<jyccm*C>p/CU8Fhw'<.jo^OPqEg73-$V63ng$=
  'G[TSIpF0/xF5_T:iueU5TDDi511A4bi,sbwUi0?%YFMG9a3E%HtbdWrm8Y1=*(*pjQGA.pY;?`pipj>juR-nZ]a==iKb#z[3
  yJ6J2$*(UG%I_/D@xEo<$?c(>hjbMRSYdK`gOZKfCqFw,hG[@hFI0W90QD1sXv.M,J7&Y,dzPjnz2b2?RkpK#,436S*T9ZxXN
  H3V*E4-yNx'/*H2_`(-4Espy3zhLbA/:^:<[:#Ur9Li<Ho`$P6e*Lv)wv5c#Mi)odg*FWB%7l0Wp'&7@[?rqgmW?a5df9A<MQ
  a-q`]v;Nsi0$G'<OdK=&H/%8itQLZxQ&C7/I+_;nb(nNm=<&gKyTc;^S],bcj22u@*Z7$?;f;Tig'RnLnL=dwR>1HF8wT+$P<
  kbgg<((_z*W^FL+d1OVc-t,[`^<GF[ub?XNc99n$4FXWeDc%Tbw==4j<;X'S2enJCFnFDl:>kL@.8t*dH'+_Y`aAfIUs---0n
  6[1N;a:lZtA:*J1qEv<Gj?Yws4c_hhg;2fEF#F<.jSG+crK.B`9+=g0E0NHeu/;Xe7q8m1u2ml9(vvP?z9U/@-gupE=&sj,ut
  MecTvdecypj6BMdwE>19NkA+8=zU[L_ZMnfJX]-Q)@9gM2Sl-J0v:#seKp],3Acf+5_9Ov(6?cEb],y>axgcDRv1Pp3gur?X[
  wWWb8GV.h58N>>vdy`ucqvh9g`cQP(%O7N,Y3o]V&KULS<n7t,dx>==9]O+Ic%ZctO$UJ9R]K_Od/&;#[dkPpbW+-QSJ_3z7e
  ux%Ugj6tv+?Ae(Ml)[`7CCgf(b90u<UkEndigi?+BUg$y>o$^*JVJ`'5P2:#EGRfkkv<-e#(>Z@j>:4f-[`RU4wfyN?bA4E-`
  eQhF8P$YIUCk=#yftS:S#)bYudIU@IU17nW[k0iLA,hkGgUcKE#gwI8$RvaQN;_0ULx+y[c-s_pZQx(zR7s+UyaP6,Gt'IM/X
  eA,NP=zoh902<5ZezZf2MrH2vHgji79:L@k>&7n;9%b07F>U5-D[T)6Y^]h`/fecxQT#?78L<pJ^I&KX5`tp;`Ea<M,JhAk%(
  +Jty41,<bG9NSnnkmA(EW+6T$@OCEif`(6-XB3d&,nb`%ea331RHJj(IEV?nZ)dQL[N9o'`ifB]ZTG.Ty0)&uNe^Yv%,rD,Cn
  )G)EbPqNm4QjnlHOxIufzBCmN^_FD?)VJb<T9PjN7e-e?h_=7U55/t%=O`'joemUN-9`?M`zv[IUpu]t]g_7`_aX^dH$NvI_I
  tA^2X(+g6:`hl/B-V:0=NWDrYC&`3[0E9PEe/83&'<:giV_RwC;U4m*F][/pVf#=,Fd#;m;^6j1FvTFd9&VF^%xq^xhnbBN2)
  q>7=j'KW@y?i.GMvb7noCkzUK+)2QCyY$Nr&3Q,k>;T5B9T4_A%p7lGCELP^?otCuhJ<so_Ad9[ki%m0kQ;n2#x&U-6jU?)85
  fl__TSdjd-E7S0^]2hLyu[ONDiogS%$VTm=WAR4t0ZqQv8aeL0iO5[E[<TfKCEjwl*Vz#Z,/IirA>c3yjPrBQK=nd-PTQeM]`
  fV-?=7]2`.+jfH[DYhs-cH[qVt/Wqsrf:)I&oBM4*DZ?<4QhrMF_y5^(y;zfoj)4&GF4E%GHj.)Yv6?KESu=G/R;?(d%d66go
  05N-2HkNx9Z6.n.=[[9gZtKwZi1(uM@?mL#;dLF,T#'ct19FXlo$>24T59IacR-1)?V?HH@0q?q9:O:8wsu_=d<ZgyOVk0R#:
  ,rIr-JDW_1p6/6Pf%J(V?RipEcW,o`C1,hWT4nh/iHs9C;*,]p0h5xlx]+kP[cqI:[xYf;LslkC<#5]-Tp0aZQi&0JsPs(J]?
  4,82dp-v;($nMBk&y+mD3r2#&fw)DqmZ9>_cki8y,Jey*y)lf?m.X$=Cz*W%Gm2=bl>_/+%]a:<F`gJa^lIbLRs3ZCYzN5Hm1
  601:]hLG[R@Xj8VEBXw?AB;+?0*mqYJ+V^t/$M<.tLh4.ata`)'Uf_2koN=FBbItC_o>RU022Bk.nkkqHfx)?I>z'DwdPY@Ol
  %=i&MJOQ&>ckhHH0sy8HxiZH<p[ZZG6?H[n/<==;ay6::U.X2/c0]F<kv59XhUKfod[1hEZ-^MxWSu?ld;'UB_J30w*3W+DW^
  yU@GW7?zai]Nax>#9&u.bO_(Ag=n`$q^fO<'Si2t#@yFa+IY+HzRM&^<Uv>fV%7,jBzn1(8DX:>q?1BDdQl0)6PR8aUTvsEpZ
  6A%VHMp9q@&8HUL1U?d1%=M;q.zT.gZ`WfCnttAF]pk@y6B?Eq_6obr4P`k%P(,rws1<Efys0^>QVm0ob#HD/$WwAE-FRdDZ<
  ;T<3xCGzy*NOwIo1bb^i'MH&1n4I*6ZQ1w-36dK:Vc&^SLi9Bw]fff1rWoNkMk5oR1UH3aSUc-b5=`iyLRcL]t+am/ICOO+T^
  =3pli_(pTgT5(:rIsw><g.b.]U75YO1rGeEvt>+dq*,tJc_ydaBAI#p'XN^kAd0-_0RQBW/Z:ba(<a.#3iV8nga4zv3Kf;2w)
  ZXKa^2QGWUpLd^SN0M0xJt6:/ZhI'sqWpFA]g^I$t]*uB>$oDWPYi3yD#W&be&zM/D9oGZM-=kk4,)W5d7RvK_aYXO8rVWt((
  KE2q.),19?F'gI,D-M97tF.ic0#)g81o=W=Q-7JSd+mlu2zITlZ.y4M)49xlC/,)yt^0eU]qwFSDP*&Os+zw+@3B7#EbKyF]7
  0_#%UO%sB&2G2eg-DJyg:JpdD.gg758r$2+fE+Lw.H?B8M,FbB8Ijex^3d[P5:-L^ty_o34[sGBfW^E75C'eZ:Ckx>I/T3p&T
  vgEGUHdQ72]r@cG]S->%Q$h_CMn*<Cj^iB9(;7Pj'#eWfAHx@AxpZ[B>23=appfBT+6e<IUWVJZDSSj#Z3P^3021;Tdx=k/)k
  K)n>'WpKLh8#$k8.B0RPy'&(^o,w2S:>?I^.Y5.8#p8N+/LY@<fMq=.['A0d5VVg.H^#H0gzA8(yuGR?tu#*ewPcbl,T4(N-l
  GyYQ$P-,6Hrn>,or*9RgQtQ[yU+NN7-+VJ]g)oQM2(y1%J(n$#rLiv$.ZBWyZdjW:/hq];L*3@Jo7+$/j#*CGU@vvA<p-8/9S
  q`nQ(TK66@cdL>W-;7&jGc3rF[#1u*eHt];wfzC?%<N&q&bq-r?<;f8x7ep]vz1C.0i^<Y-XWk%-b(nPj89XTS<<6yow+mW:l
  1b02&.6llDuY(oR1D&vl)@Eo&<'JczHnbWXww#SnM?RbE$dZ@*]7mk/<i8i1p%ic3^'jvn/q$1tdRYSNl_7z<T`XU%tf9ohEO
  Es`Y>2aSN;XjE=@WIxpXr%Jf0pRx91]#*;r_5.@sh?X)_YQ5ERIzdA`]$_u14jcDU(O?M3Zn`0.3')Ctv[m`@@.Gl`Z::W%zu
  DI20IE/j'43pSY80pl:0Sw?;ftOgguepywFf+I94`0oiO?>`PUBB%L43/Ed@NXSu[`@nOMNxeDjlh4N*B#>7S;fYJyx#p36S*
  *(*QtfUwb$.5Nob$XhW'`+8@x(:Q6r'u2-WfL07.r6,6k0MMpv?Dt(OF3a]d?=B0UWPbfe[<fncdzJQ2nTT1(,3MGu8Tir#WC
  8,vd&H$t8Fb-JaJjP9x$O`*lh5[+MT)#xOh(&K7$kOs%^clcAx`SMuZWRV7>=%Li]UG@r(e703(h?7m6Z.ypks1=?NvJ]$BNX
  QEVBlm^Qh//IS-y$VRArTt1>p+DKNU'pY]z(d4QSC7X0C^u$a[:A<I&FtnnRO:adw5#_M'uiLDGfmya:o.MJy[ZSecq'cMkUL
  xY&j4Guc.oT@6)m=lRi.'<7VC+$k7Dt()19POXY0SO%kPSXZ.-I+sdV494-<H%S/m&tiD?qHH0E[DWeY0@DbHenBp[iuXp3x0
  *IP;VK],3A*wbY85n.W'G6s_cdtEZ:TjC?&Le%'Vl3qMT22`]r1B&FBcaQxq4&4R)dGH/SwQW-wH)4pBBmYV4QA^7G:'.RBhU
  j5ko[k:N1-b;^&Zl.3otv_j<@?&WjfK&Y?/^hGfg%'GXb@O@3P_m(<p0`<$>xVw(iNy(QTrl9RlZi*D%GeHkQ2iuIV&//Yb-%
  CX;guN1]7jn@<)DfyTZMc^90'`(TKCSPuXA:TgKPW:nAnY4jXV(5k>v,D@UwG[y+an-a(+iW.vl&mZSukK]zuDh2B8rK4qbi5
  z]H:urJM/fq@Cmc+p.6u_Ss6j6v`P6fhZN:fUlnG9BR&X0(M8tU$VbdZ?Puck%?-KHqt$]V7nu8qFzSrE:%PH@m6Fmn3GmI#E
  Qfmk6xAdDG2a7*9UWcgC)aidc2ID5iAN,(FHCUvZv%'LnBldv.'0_q_H7sLAh8IftGhMGtC]@QLTn%4AYG(gJmn`wI-@XY9k:
  Y(MF`7PuMcoo_whnQmEYw,gu_ydE(JYxc69-yt-uW.WJBWx9@Zljq?WMn2a6BMqg1in%f@0Z^LxUzaY)H,SGmZ%]q4N'znm3x
  x0<p`=rsi]J?%2<g080`h>`#)Ij_i#)l>'&aQ?uK12Hqkc&IM8_9<[X^GquHM$7mbew_YDp*)wLDH7CfR8hYw1]_t-VyygVYB
  u(:8OQ(.n']G?/5oE22Z6v-md3%T7X[FemNx9`MLcA*oqMCi4f*Vi<kQ**myDldBLU]GT*HnMX'QVChg4?YKc&YALUMtTg5'>
  r'*3;w[a&k]]qLjxfvLtDXgzjTo8<s$MxNB^Kp'Wy%wQs')(l)PA.R%d,4BYUrz30N1pvRZ[iyg]s=<iDgvm,q7XA=4ylb]hi
  BY(<(5=:^c8oOysQp[y^a7RX%rvHZ3PJ,G_Kuj_T;x=;l$*&uSH8tg,:zO+<+0mWF$R+xz>l<;tJ>1*:8vl;Y%3,8j-76p9.v
  V3B?4I(m6?IEUhv0L7r6qD]UB#Cl%,m=^CMd]i%Hzzj)^xs;-Pvv&=rU'/]/6#9#Is5s^i<ZO_]d)`#H^c%iBwi;9kMX8CKe$
  63dgdnI#5z^9B+3=G9-lAYC6Wb3oz_)uoWF(FEVmhI1G>Z4hL8l-he(L64I](32#(op03rdBU*vQv(%Jd^]zFxWu<$c98Py_C
  :iC0pYlg(2ap]9M@o5Cf/+4.xtOnu9kUQfB3AK762.`Gy>ZJ-9-S+esPr7[RMytuaJh_1C.t6FlOaj?FMw@9d`qGi:jN^m*Qa
  a-7nag/PF@V92uXY8yP<S1FMEs@&oY&t[Mx=zMk?olco[?4,<>'tg1hhzOa2%`bpmf`cCXq&*vG,dZX=+=;lVrt',V$kjKE5z
  >Yug]qoVduSRRvia(PRpB=?.=fnGQ>N(&/3v9Q0Uye>q4Gdjs/xk6o`n#q9%PlQwo6NC>C.u<5d2pQ(0KpTNg^g#j2s8_+i4W
  5.:_=&=L^4Tp]cxBA8(@<E5+r>yh%MEJ8ubbV^TJmhsRuTc$BDlH6JCvq0CKyx?y'^Y:dj/C'x_)I-q2'LKe^^l#qp2aR6bE@
  [&&-xbfB1<K,kD9D_Lhwe,7St(Gmy0ct2M;yVORmCQO,X10Z:VkS8rFLEZnQwN4%A@v<pnNu_m,G?w]8ZBvZ5u31,4wC5;?3N
  [OV&q<qBA33sUWcNTr#l[V=0?sP9v6sGcX/oK,UITd/M_X1ICPzD9r,IUC<c6u;q2>o-MCZ16i).?BQtw5p52_D/&v`X,1H<[
  M&3xe0sf#KhuY1V]+;6i^Zv%Om];KUq>)4)9=nk8^R$n$sb8nw_5%JM(hZ@lfG,XA357(>YC^#OQ'Dg3-FN+M7=YXILgF:T]z
  NvnFp#UhXy59:A%:K.j&-*+/MKlAjU%`O-p8CD)VP<j,&2B=OThwi1T^0]xm300cMLGQhlC#vWmHMFUQeavJAXtoPp@^3q;@,
  )PyPbTO+$zkiP$0aR4lNGJdgzx]U'3$/Iq@qLRAsu;&=/0i@Gj<Bnno2=UZF]s78'S[JqJ+-x]VM`?I1`;+5KA7x(puHy2SHh
  s&x0itZI;heJPL>h:0#0SC4EN2qk`*F-=1yX=N0+?2<fp[z9v@Yv1-HpcBLq<bX9gL@(wHwFDy/p??A0kgO@Gi'(?C39;7YAV
  *;qyL/8QCK`kuiQU]Fn607'cn(w%UV9phytGCi9Hurswr#pD6jKFjTT;@y[H_M)J'@faW.HJFxfv3G<9CQPD'go?/R='GV]Z:
  Gv[=L_KEQyz$Sc74]9^C=6AbRfc_%DntI5#X9$thf'Le[N#=Ano,xvRpSCT@gW9]A4_PCpoh#CBX7<eV'oUI#&q%3Ubf'Q*w+
  d[efoufYM4,5@Vv.G^B-'F'3cg7l6k#i%*4cU:1r]C/V[w>=MQN?(sNUPu5B%Nh+K^_+(L)2;6tRdVH;UJ-k].B2uu_U>93'h
  rvlfTE@#m@6>P-i@E4hM??q%,q$_lO?lT#dro-]h,zGeN:>);*yJ4iVe]Xi79gpyJ*qIpi>.%,G:7D_Dsa6`'J[9V2]-;cz'6
  QM4_mE=5GCT'0_$yd&bAU3(*PmF4_2-7$t2a.zApE1?F%:-8=epQdFqoX=?t$Hi.;]uYwOanBcB`xNlv<1#9sbJw@cLpQixNn
  ,*92h`;`C_I_MZiAtK&eVZ3IhlH.8=SDkoGf8isIu/P_dV71q3)H7os;d$^a(-]O8CYSukTykYpl+O2W/DflJ@L6jvSf2Olbz
  NJ.v(81BRRF)>V,_;<?m%fHf2S$]3q,_w)Fg>NmiBgVpysW06#In3-'rP#d3;@A1@h7W:#vCivz(6ry3;xrjS/mF`)Ch;*rrn
  m4Qgb@H1MS3*Sg%P^zv?O0$OM)qOxrle5&=*3G6v;ri)3&kY(y_o*0uC4,GBB8AS&tOboeHh[itflR2T4Bv-*GTB,:KK[:8_[
  7vhI*:9IbdO%KUf>(I(2OHVp:P_VgIF)kDJr7YRZ22,zJtaegaW0ViR63]lGO3)w,(Df6zDhw4>=R7+Ig'Ha[UH(*:#O5$uu_
  =29InE=`sB,M'f4sRnutD00lS;uY(m<#/J>tv6N?e$C'^szBeGwP8N(lGG>DO_<@dcfeFKO&8:l<-3w/5p$v>F`L.eBnZ?bM6
  P-,0=SA9o'&>wFq.G9j#1BK*aOqxKAJb()swH-oA$1IJ>0Z*2PLD;iPQ[h#p7gUY.JB,mjF?bw38nc@'6;6YDG,Tv3a6y%*sU
  +4'WkHu_u+;X03&?4R0]:M:cu@`iMOkDIDjAo)O-iUeO$TFx7KM8WS=KQ;QHNa+<Gx0]_<MtoN[Yor@1<[d6bqlfesUz/IprT
  <dY7J?R,j8#`KDB&%yt.%BG-AA<l8&zmEWnQ+agP6PX3qB0ZA`<aP'xOff(U4N,R+soMO@V^j)9W?4cp#1Z@/n,$eOa[B]&7O
  /eFqTrgfTV>#LfK+Vz%Gl;(-.S?,[R]%Gbovn9L4Z7^9K?'?eOayvbL<WDItTWcjN8;NnWyq2<#FYH.Ev*eK8pl#9D&y_$=-J
  Be`gSNXZvZt%9S113[)"

end AttrBinder.Text.CharName
