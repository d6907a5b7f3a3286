/-!
# Names of characters: Historic

The names of scripts beyond the first plane, most of them historic
(Unicode 14, code points 10000 to 1CFFF).
-/

namespace Componentry.Text.CharacterName

def historicNames : String :=
  "w1XT0amA9B,QB008 AdB038 EdB028 IdB061 OdB010 UdB001 Dm7k45 Dm8007 Dm8@14 Dm8P51 Dm8a57 Jm8b6 JEmG
 ;DmCR6 Jm8@65 Jm8@77 Km8A4 Km@q67 Km@q70 Km8a81 Km8a80 Mm8a13 Mm8a73 MmIW5 Mm8a23 MmR=6 Nm8a24 Nm8a
 30 Nm8a52 NmR=5 Nm8b3 Pm8a72 Pm8b9 PmAG1 Pm8b0 Pm8a16 Qm8b8 QmlS1 Qm8a32 QOm_D28mWJ0 RmIW7 Rm8@53 R
 m8@02 RmR=6 Rm@q31 Sm8a09 Sm8a41 SmIW2 SmIW8 SmuI9 Tm8b4 TmR=7 TmAG5 Tmuj9 Tm8b4 WmR=5 WmAG0 Wm8a4
 2 WmR=3CmDH7 Zm8A4 Zn;?3FmP00 ZmQh5 A2m;B3 A3n4D5 An>b1 DmBM90 DWm9648 NmH129 PUm;B62 PmRn76 Rm?;3
 3 Rm?K68 ROm7l6 Tm5p87 TmAX1!ImM>50c!9B018/1mBLm=`4mFT7m169maP6m>43m6v7m3c82m2^8m5>89m>u80c]5B100*U
 dB102>Ym1V4 DEERm2<5 EQUIDm2MF MAREm2MM STALLIONm3B6F EWm5O6M RAMm2<7F SHE-GOATm3CM m398F SOWm2=M B
 OAmG;9F Cm4Z9M BULLdB120 WHEm;S21 BARLEmRm22 OLIVmHq23 SPICm2M5 CYPERUSc[SB12oH8ntN128 KANAKOmd33
 0 OImD831u8Qom2<2m:n33 AREo9_135 MERIm:^40 BRONZm9641 GOLmkm42m165 WOOm@a46dB150m161*m>D52/mB_56 TU
 RO2m@Q57n9R159u:FUdB160m3t62 GARpBPm2mmM_MOUmmX64/8dB1oiXONm:n74m166>m9677m6U89m>v91 ukTjdB220 FOOT
 STmR^225 BATHTUBdB230 u:Ywm2L1!Pm1V2m163 umL@m2L4m166dB24n9dEukpJHARIOTdbB241m5o2m4< FRApBa243m9ym2
 L5/1mhZ24paTPTEmhZ24o0Y251/mHa54 DARmUo55/4dVESSEL B155eB200/19eB221/1m1V6/3eB250eB305@10v?T<EGEAN.
 G+F%2d!Ob;B!Sm5p7sl:s`hu0xb&Qcvs3zv=X<u43Qv=kJYcb!2cb!Zcb!3v=_@m89m8?v=SNb&Qcb*Dcb+Ocb(Jcb+6cb+5cb,
 Zcb+DmU>37bWEuihsBASE uyce=PSUBm2<u4KEbbDRY^M=PbdLIodZbb^Mm7]a+PACROPHONIC ATTICtW]>evAVBd!Qv>1_Q%7
 e(6dbm2^TALENTSdb$Xm3tbmhZdc!Qm2<(6m2<eSTATERm7om7z$Xdc(Jd$XMNAScHERAEUM!JPLvQvkNc[6!JcbHrV0u@BecEP
 IDAUREANmwD[6cCYRENAIC!ImUQScm87cTROEZEm<i!Qd$Xe*5&WcmALn4DMnc8m2mmAFd*Dm;I(Jm:i(Jm8Am[CnGhmOQQcm<p
 cc[6ccCARYSTm3CNAXm1g[6mg5nRyDELtYH<QmgfbSTRATmEOb!J$T!EmJnb!I=B!Euu]AwE]On8>bbme[bbOBOLbb!Im1gSuzD
 DbMETREuqB4KYATHOSn_rbbLITRm<XUNKIAbbXESm81ARTABEm1gOUm6uGRAMmE>TRYBqDim=Q$Ouux3bbSINUSOng@INDIuVzh
 bNOMISMAnym90v?zm SEXTANSbbUNCmHqSEMm2AXTuHy8DIMIDm3tInymAbbDENur@4bbQUIm2PSmUNRTm2^DUPONDm2MASbt<K
 sURIALaASCIA!qzw1A0a+P!9+8)Cm3BDtY]4ISTOS DISC!Ev=vlRIANdPLUMED,2dbTATTOOEDdCAPTqa0u?OFd>YdpqhGAUNT
 LETdTIARAdpkaOWdun`OdCLUBdMANACLESdMm@PCv_H8dLrFqOOMERv_;[RPuo80 PLANEdDOLIUMdCOMBdSLIm7JOLUMNdBEEH
 mLySHIPd*AvuxJdr>@S,LdCATdrOwEAGLm>eVEdTUNNYm;cdmCC>TdVr1cPAPYRUSdROSETTEdLILYdOX;0du=@DdGRoiydntNI
 NERd!CAXEd=CBANDd&V[W$mw4280aLYCoU6vgLqBcBHcGcDcIcWcZcTHcJcKcQcLcMcNcMMcNNcUcPcKKcRcSvtEcu9hPHcXmAF
 A0aCARmAIP2cDcLcUUUcRcLDcA2cQcBcMcOcD2cTcuB<X2cScC-18cUmD8XcNcTT2cPcSSwTOtm=NKcK2cNDcUUcGcG2u7Q2T2c
 NGcIIcC-39mMNUUU2cRRcMBcMBr]uLD2cE2m5>3mQVE0a.JEPACT[8!Scv0uqv0uxd&Qd*Dd+Ops@+6d+5d,Zd+Dp;:Ip;wdb!N
 dbpivYdb!2db!Zdb!mHP300a&Z;HwfoZKEdDEduFS2ZEdHvp^RIuFRu,FuFSS(BdKUwfq<KSdPvpT^dEFdq:m+MdIIvZqiSScvB
 Tapm=d(JmJL2DcvvkXv[wl TSEdbv]2`at`Ln!BAHSAcBAIvm2]GIBAcDAGScAIHVUScQAIRTHRAcIUJAvn6PcTHIUTHcEIScKU
 Svhu<GUSvm9WcNAUTHScJERcURUScPm=s+u?l_th@TUILcTEIWScWINJAcFAIHUcIGGWScwq1Nvm4zc!3%7m[R5mvoPqDHuJ4:U
 RdGAIdDOIdEdZHOIdDm1GZATAdDZITAmzgOKEdLEIdMENOEdNm1GVOOIdPEEIdREIdSIIdTAIdUdCHERYdSHm6eSHCm1hYRYd=D
 t[YJwgyTIUdVERdYERuN7_dIwgx>Aa&VmTqeDOIemP@emKCeSIIm]y80aUGARITm8ALPAc+KcGAMv]]z*QcHOcWOc:CcHOTAw`y
 @(UwYu<Qc+CcDmoD&HcZtd2PKAc(LcPm2]DEcQOPAcRASHAcTHn=[+ZcTOcIctp;VmL89Fb.G?6n0<wZ:^vgMzKAno@GAdGUdXA
 dCvii0JmpZdTUdDAdDIdDUd%LdPt[QZFAt<XPUt<SGYt[R@VIvdESdLtVw]Zw>3fHqdR3C8dAURAMAZDAAm2S-2m2tHAdXSHAAr
 <TIYAdDAHYAAUSHm2B-2dBAGAdBUUMISHcm^oc%Iopeokgncz400aDESERETta1g4IeEeAeAHeOeOOd&Em3]AYdOWdWUvrkyHn_
 qq7;TEokuqaaEvrlOKAYdGAYnZyVEEdETHvsQ_oiXZEEongZm3CRos9vYARo24Wb!CmMnmMnmMnmMnmMnmMnmMnWaSHAVqAhPEE
 txiUKICKcFvuY7GHvzK`REcusovcYEAcHUuDqXBcDEADcGAGcVOWcTHEYtjam^McJUDGEcWOEcHA-HAcLOLLcMIMEcIFcEGGwVf
 _DOctj@mOLc.BcAHcROARo9>EATcAGEuEZqUPcOAKcOOZEcOILcAWEcAREcORcp8eERRcARRAYvp<MANcYEWaOSMANYAwcStwY2
 CXoVnDEELcRpLmtg6]Nc%5cCAYNcGpMBwYdwwXJWANcMm7JNUUNc&5cHtYfZvlfxAwYLmOOnk8AtYPFv_h104B0aOSAGEx0mjAI
 d(LdAHdBRtYMZEuJq@EdEINpGNHYAqZOHocut_0IMoZepO_INo_]EHPoWBvlV:EHTAd(Wm1gSAd.Fd%5dUdWt_Gs&Bo`B*EmM>D
 8nqLmL=mLGmLGmLGmLGmLGmLG500aELBASs6_Bw4w]+Mtk:wtk?cErxFFw3RzJEcHn6aJEcKw6G;LEtk91Atk@yOcPEcQw62MRt
 kI0tkPJUcVw5;FYtkLR:McGtEa<cKHmNE3sTaUCAuTA?LBANsWDLTdBETwg6FTdEmYFRLdEYNdZtUwqASms]YOWDd*EdIRBmiPL
 uNvNYAdXm8qDYANdCARdJHOXdKARdLYITdHEYTdQAYdAORdCHOYd)WdCYAYdMAQuNw4NOWCdDZm48SHAKdJAYNdONdTm3sFAMdD
 ZAYdCHAt^2idGHEYSdRATdSEYKdVEYZdTIWRr7wYdIWNmDHWdo=6dYAYDwgK4IWmhZ6FcCITuN:oaVITHKUQIny>BBpHedCEsF]
 DEdDsJDr[NFEdGqIF57Cn_1vh^tJpNyn`VLvhdFMr[_dNJEs]sQAdRn6A8CdSsa9TsgnrT4dXm5`94dYdZm2N7ny]mLgmLhA3mL
 amLhmLhB3mLhm5aBmL]6t@JQA!EAB001/10dAB013m1G6/1m1g20m1j1Fm1XMm1W2m1Hm4J2m4J3m1Hm2o4m1G6/2dA028Bm339
 /m;t3m6537/m1h44/7m1g53/8m1g65m8B69mJ>73m1j6/6m1g8m6v100-10m8q11m;s120dA120Bm2^2m;3131Am1XBdA131Cm2
 m6mIF17m6v80m1Gm=p91dA301mND309Am1GBm1GCdA310mIF313Am1GBm1Gm5O4/57dA400-VASm1w1m202m203m204m205m206
 m207m208m209m1z1mCV1mCV1mCV1mCV1mCV1mCV1mCV1mCV1mCU501/5m1V8m1W15mqq5nOH523/9dA534n;_54m7:47nYt55m5
 N63/3m1V8/2m:<91m;d94mno598dA600nKo606m168/1m1g26m;c6nRy637m;2640m162m9W48m4951/1qeH7m64701 Am1V2 B
 m1V3 Dm1V4 Em1V5 Fm1V6 Hm1V7 Jm1V8 Km1V9 Lm1W-2 L2m2>3 L3m2>4 L4m2>6 L6dA710 Wm1V1 Xm1V2 Ym1V3(Gm1V
 4 ABmKB15 m1i7 DmM>26 EYYm9632tBV=760dA800/7m2m80a(vb2;Ac;T<L)Ndc$Tc!CAEd!DBwx6bm9G7wv[Fft[4=g+YdDE
 ZH*Gwx:[vUki4wx;_bwx7Gwv`Pwx1U!DGwx9Dd!DdHt]3s!wcX@Nm50bww[wdLSwvlVZthd7m:^btiNHwx60em34d$VYfm7lOmA
 YOEdwwzVQd$Vwwwgi!Fm9WRmTj[Dd!DRww9KTSm_HpL]Sm^_Tm3EbuVdBmguB2d!DYcwwOAwwd=bvp]^x17U)Km7[mB_c!CSmJ<
 @10800aCYPRIOT,Qs]gJAm658cJOm1xtrLvEcKw57OUw7<ow7<Aw7:PPArcHPw5xOUcRAreEw2]zUcSAw7:aTArhwTw5iEUw6wJ
 mMp37w;12Em2^CcZmTI3FcZOaIMPERmk<ARAMw_d2,Ud,Dd,Id;3t;VH5d.Yd,3d<Jd.Hd,Kd,7d+Cd&Hd,Od:9qYF.Sd>Hd.7d
 (Vd.DmD857c*2!Et9@0!Lt9@_!Jt?r]$XuQB0YRENEmIFc,Dc,Ic;3weLSYweLQc.Hc,Kc,7wk@Lmo4.Sc>Hwk<Z.Db+3FLEu>g
 ub*ZtA24t@zGaNABATAEsS:!TmJ<Uc!T,DmKy!THEmM:!T.HmN4!TmNTKm1g7mP@wkbamQU!T(VmRLmmkA7mPkbcCRUCve?Jm5N
 mSUcmpkm:<E0aHATRANmoxwl9VH-REwfCJZAYNmrTmNxm64mO>mAwF4mNkFBmNgmJ5aPHOENICt7GqFcBETt;UscDELTmHqWAUc
 ZAIwlSvwlRkDmIwwfY]t;SVEt;SYFcROwfW`+8mIGmHhmkN@1091Fb.G+FaLYDmKTcBt>PiEcVcIcYcKt>OeOcRcSScTcUcFcQc
 St>OGLYcNNcCm@a3Fb<L!Sm2L80aMEROITIC HIEROGLYPHIt_dpvuc_sqyA-2dPt8g7Nm32sh2E-2t;b:m3RLAd%Gsr>tHO:m3
 sSsr_sn6Tm0a-2slZTm;2TOdDAc!9VIDJdm16-2bCURSIVEmK0mInEmGZmF^b+UmFNEmD:ma@BCc+A:LTWELFTHSd!J$Tc_WRMT
 dIMNo`8vP^^t>eOmB<D2t>eLt>eOvPgem89m8?tBcU&Qdb*Ddb+OtBf7+6db+5db,Zdb+DtBi]Idc!Ldc!NtBl:c!Ydc!2dc!Zd
 c!3c+A!Jmc?d!ImeLmK;mKAaKHAnqLTHI!Bti4=%PR@10A05dEdOm2=Cc;K!Svg^6$2!VwUIKvu6^m8a1tk4Um3CwLVQtk5Etk5
 Etk5EvwlJwLMWTTTwU>ZcVHmE`38b!E$Y!Kcu]?BvhlFm5?Fb&Yw<ibw<fIwT_T$Tm9w50b(Q!Oc!C$Rc$Rc?1$YcMANGtOyDLO
 TUStev1v7`_m;B60a&Z&KARABocEHEe,7e,3e+Ce>He&5e(Ve.7e,De.DeSATe,Ke&HeKHETHe.Se,OeFEe$EeAYNeDHADm>DIe
 ;3eGHm48<JeZm5rLm;3HeTHAWeTm>4do3ke(JdvRtkIC=Ub&CmNI(4e&7e$Le!4e)ImNDES-2e)Te*Ne*4m321e(Ue&3e%Ve)6m
 3c3e)1mNe(Le*8eGEEMe.Me+Ze)Le.ImJ]Le$Ge:1eZAmKU$Xe&QmjwCwe3ZICHAEq=4BmTHq>DGHIMELr4jb!EUDb!B.YcZHAY
 INcJm1Hm2mqCLXAPHcwicTqE_DHAMEDHcTm1j+Cqi6Am<yq00Fqk0XOPHcQHOPrCcSSHINrDvwp;Ndn^]EqP?7b(Q*KcrM=c!Mw
 cgW!Occn^:Ocvj[>%2=oHyB00aAv8XqNtmSDAOcAm0qNcAm0qEcAEwW_1tmRLtmZ1shsXuXMHVEcGw?ef:Mtw]0twfzt<VwTTEm
 aSBEn1Bu7t0Ym16Vtw_rNEstkHMEcYYtwjNVEsngLEuM_Z(Bc:DcSHYEml2roqmYw39mm9um^FuWB0g!Cag%HbuWCebb!IRvCNi
 oOs2m5o$2$Am4[aINuPhVALumXyHnuesuXsu`su`su`B58qDRsu:bPAHLAVImGhWAW-n[os5WmJ;MEM-QOPHmKDmJ_mIL7mILmI
 UaPSuOuu mK4mKAmKAmJ[mJ[B99c*2w@U6t^K0A(Zf!nnlA9mPOQdsnjC0pQZTURKro0(2Adb(8eAEd(2Im2Mm2<OeOEm2md(2A
 Bm20Em2AGm4=m2ADm4=DeEZm2qYm4nm2BKm2?Om2AALm6ILeELTeEMeANeAENm5AENTm2ACm2AmAxe:Em2nGd(8Am1W2EPeOPeI
 CeEm9ZAQm1zIm20Om20ARmJrReASeAESe(Mm4K,Fm6HTm8Em2@OTeBASHmz680bHUNGtEI2tOu=AAeEBeAMBeECeENmN4SeEDe!
 FeEebv]1weEEeEFeEGeEGYeEHvvGxEJeEKeAKeUNKemkMYmkLENeENYtAdoe_0OEeb|HeOm>DPeEMPeEReb&EeESeESZeETeENT
 eETYeECHvvX^_0Um;eEVeEZeEZSm7ku`@N!EeUr2HCC0c!CmYtmYvmYvmYvmYvmYvmYvmYvmYvmYvFAoA>tEMpoa=HANIFI wgx
 =!Bt7bKvzgrZdJtCn2Ht7bJFw2oU0dRAd*0dZt@k_tgq8t@sBWAdbKINNAdYm2?w0J5FdsQoDtPaec!SSAKINdNA KHONNAtsL0
 RBAHAYdTAHALmLyNm16SSI@10D3tfiftfil10E60aRUMIsZ^cvHextKEQtKEQtK=Qsi[d(5vYI5mJ]80aYEZIDI!BELIFuR2oPr
 m48qeyCIMcCHm17m1FHu4e1.McZALcRwfJrZtBmaSINr^ZwthxTAqrVEYNcXHm1Fu3ZHd*5&Wwt`hrvZFcGAFc&7wl>CUMc&5cO
 WcEWcHAYu696ETmScABb&V(F!Scb=0bbv`Wem6TB0b!B&7wrdzYOvi:m@10FpntSOGDqw7tSPT,Dm1XIqDXm2<qy4qxUm64uk>e
 &4qzjb*5qEam5wqPqqS4t:v7qKem7Qt9Jut9HAnDvn>2c)Fm?1mXq30amXQt;@lt;c7t;=9t;]7mPEwqJ6FETHcLESHb[J(Vb&V
 vq@gwi5^.sqyc$Bssfcc$4cb.7cb$Csu1stT!I!7BARSf!A$Ic$R!Asr?]Mm3TTm3um[c7n:XUYGHURrMoGIMEL-Hmrgn8o!Tn9
 LrK6s5KdmZ<c&Vwj9]dmW:tccE(Q$Yd!ImO:e$Idb!nZHFB0aCHORASMmwXb!Ct=39bCURLEDmznmzvt=1gt<X9t<TbFE0aELYM
 AICnD9t=IrmEnt=Hl)FZnXnYODH@1wT88BRAHMwf5ycvqtstuLOtuLWAIwdv7tuKAt:F;t:F;t:F;wTCp&Z?RLLLAe*0eNNNtpI
 obBHATTIPROLUdItuOYtsxGb&YtuKunlNOt:;k%2t:BDt:@Imkm52n;opritO<[prId(w`GbwTOrm]Xw`p6m1xEEfOm]zm35gOm
 5b)BmOZ7Fb%I[NaKAITHnAYn@In=bn=jn=jwjOP&Rq5>n?un?vn?vn;PwUKCtvT9)wftIEt:lkwo82%Ib*twEXn=nwU2CmeyCoF
 ME!Km2mDpVXRA SOMPENG!BSAHd)LdBAHdCAtI5ZdGAHdMAHdNm1wLm1wAHdVAHdPAHdYAHdRAHd$LdKAHdJm6em4HAHdEEHdIH
 dUx1c8Em>eEmHqFrW2rW511tr`WKMAn=utrc[Kwr_JwJ7[m1wNGAwEcsm32Jm0qm4zYAAwrjZtp3GwJNhm5pNu6[Tm5Om5>m50A
 wFvaHwsK4BHAwEa5YueXznBXwE9lWAwDpSHAnBKnBGUdOIbO!SbboJVMAAm?ZmbF3o82o87nH^nGjtX6vx4>TnZ=EIb!BVm@s50
 aMAHAJANItsX]tsX2o0Gp=rny;MnxLp;j*0b!Enq?mSu)FSHRImMo80avv^ZDAoT>peKpeKoVlmVdmVdoT`pauoU8oUEp^roWo,
 qD<OoRymf0+FwkYgmis$D(1nNaEXTRA&E$DbbSUTRAwmb1bwnPUnQLnQQEKAMtxkatxo>vUP`os5n5;w77711Ewckq+UtN[gtN[
 jtN[jt8fQ@11200aKHOJKnczoYbn?EGn@:JJnrR213nAWnAbDDnBgBpi3AqwInBApgc%9cph?c[1n>CtA_PpfhwnHG?PmQ680vZ
 ePoHPm^3m6v8c&Bm1xAm_A8FqLDAm`@nqlm;S9Fm_XoOAqXqmTYm96Bn6aUDAWADIqoRn8ln8loIOmT6*oKHn8lqq`mTkn3On9j
 qr5)3c&YmZmF0o:_tKi31300aGRwaePwgIcm6ewkhZp8CLm6DwmwOm2]wmwsp9zp9zmipm?Z2p;EcRm5pwkjjm2]wkkGm7<Ba&V
 vzVa!Vm_HwhU1pD[m;swn3hm[4wn4Dm3c50bOMm1xwjqxm2nDb!EPLUTAwh>vdb!Mwg<Gqgu6a&VmOMrXld!mG;70c!BAu1KHVI
 dPm_440w;<4An:TqB[n8lNGHAn9oNYHAn:qnt^NHn:UMHn;Asu1Lw?3`WqGYqGYqGYnk^cn?hc!T%9qIgSIDDHIp=6&Nu1wIp;x
 o7LqAv!M&Nb~Nn@M45DbvYe8wp9DnBNvzqOm8q80aTIRHUTAwqVmo>Yn4Cn4Co<pn27rF`t7l5my`my`b&mzHm1yUbrqsq9wo?u
 GVANGmujo5X4Dp49p4;580a?MmjNmjUmjUmjUmjUmjUmjUmjUokt5B8ni1mhz?s62F!Oc$Ybtwzt^K/2x7;;!SqSd!ATRv1iL!F
 UvDFGORNAMENTSg)ECRESCm2]edRAYShb!Mhb&0d!M$2fvN8Yd!A!Mm8gb&0eb?IebSEPTUPLEe]M!Fm8qg!IudtBSgvk^wBuTo
 mwote*5Iwox1eIIc*5Uwy<1eUU@116wBO:qxjnBGnBGnBGnBGnBGnBGs5pnBxp0dnAww2]9CANDRAnC?s7yHUVph_65o2Ao2C66
 wC?_!A:Rb+E=Ib!Mm35d&0bbm2]!Mbm5p!AemGk%T=InDv:RbSWIRLm3C:Rm6Ef$VmD8p7oAKRn4es2Rn2Gn2Gn2Gn2Gn2GsRjm
 t5r6mt:qGwFWJ%oyZmYVCmw0mw3wFwDAHOMtFxTqcMAmTyb*5mSHMx1GXmYgRuDGU%FmSBAm^QGm;3mjF&ImhJ*5BnHm71Dwa^X
 Lwa^VbLIGATINGm^?waozWu1zKt8]yKILLEowm73m]7!Qt@M^b!E!CwaiicRULw`GgVqM_CrAosAOwDsTDOGRrY;nO5nO5nO5nO
 5nO5oQ=*0mk^oQ=nOOpbrnO:8A0aWARANG CITIu;A2GAAeAeWIeYUtcJDOw>E_tcMh:EeGAeKOtBKkYUJeUCeENNeODDeTTEtx
 ONeDAeATeAMeBUePUeHIYOeHOLm16RRw6i@SSUUeSIIeVIYOtBpRmIfmIfmIfmIfmIfmIfsz=dt:4?t:4?mtsFFcOMaDIVES x2
 z>!Bntzn2H909dOm1hCdKAdwekSm6T15u20bm2^8welXwelYtchRu4:iVwehK)BdZAcnYew?^<myPmP137eAIemPb3BcnZ8d(Rd
 wfWan[oPREu:<8 NASAL!Ec%KYAc$PRAwPRTt8HP!M,Xct73gcrF7mB<50n1^t=YA9A0verVINAGApp0qtrm8rAoS7oS9oS9oS9
 oS9qu7oSbs=U9DAoU5t<Ctt;vZt<:>n6@A00aZANABAZAR$W!Bn>sw@keo<1o<au3NA%AId;K!Su9j<n`Ud%wgNtn^YwgNtwgN?
 nbbwhPL!T)8mLiE&Yd(Rer:8dc,Wdn_@CcCLUSTER-vi64AL!BRAm4MFINm3sYqC3LAen1sP,tGV8]Nc!S<MdSHw:Vvd$4wfz:v
 <@cvKL]m97d]NcSUBvtozmv>50aSOYOMBOtKtzu4hGdOn<EAn@oLtKuMqtgn_?n_?n_?wiLOwiJ_nc7muHt97zbmphwhSRm80n2
 HEGeKepXDeNeBeMese0SHeSe-Arjx]1!SbmkAbmvNcu<l=ct:erms]!A,9!F:0!F&0FLAMEim1Gg:0btfADLt=laAB0wGvjNATT
 wR<XHwRtbSHRIm17m1GOm17m1Gm5pAAcSPumLacSPOcSPAaPAU CIN HAU!BPAeKnWWMAqAFZnYRe$5eHAqKs%GeSwC>qCAewCg
 0eNwCeDRwCd?EexK=7UAeIAe!TPfKfTfMfNfLfWfNGfYd.8&P$4e&Pd^2*I%8m3f!Tf!Tdbm4Jem7^fm5BMID-uk:_dm7:,m4?m
 =TLOW-FALLINGm>5m9jm5FmGAm5o@11C00aBHAIKSUKp`qt8Yfm8rpaSo2So2So2SpaSt9mSp`=emNU3t9mqpa;t>dsGAP Ft72
 0-1nhxCt8Zit735m6MtC`=tC`=bHUNDREDS UNIqk_C70abucxkEN,2u?7ioxhu?gpu?gpu?gp-Au?g`mHq92b[5q=uq=Iq:1q9
 Nq8iwkVGm@QA9wkW1q7^n?Lp`0p0hph_wuu1SARAM GONDIsGPm8A8nFQm2MBplFqdMu9p^qe7qe7q_zsF[q`[dJNYAdTRsHx%P
 mZ=3AsJvD3CsJyD3FeAUsK^Cd)3d,WsLyREPHn;_-KARmtBDsCHsCID60aGUNJALAmqqmr4m7lt>kjD6At>ket^dameMmuZwIp2
 mwVmo9mxmmvr)Bmzimxn$5mu[Hms^SmlomLJ90eEEemLJ93eOOmk1oZgOMm5_AmefmehEEn[NKn[ou?Vfu?ThwHBiu?VfwH@ubA
 NGKwHAVvhF9wE1JwH@J@11FBuNjIYHn<eFC0a?vtT]t<Ktog`-AND-wvsU~8dwvy8d~Yww3Fd~0ww40dSIXubN:ww74m5`EENTH
 pG>vtj<*9ww:ed|KvtlYd(5ne4Fm9gwvvSDOWNSCAqB< vmVwKIIZHb!ENELcCEVITUcAAZHAAKKUcUZHm1hMUUVm2ax;s@IcPA
 Tm68Km4;KAACu>:LAMcPONcVARAAKuNAgoiXcKUZHIcVELIbWET CULTIVtCT`cDRYbbLANDbb<8PANbvvK>ItOJsx0F5cb%Ibb
 vgPJbb!FODDbbSPm33vkhBbbIN ub[[bbSTup@M,1wLA>THALIYnQRKAIYmRmnFqFFb(Qt8l6aCUNEtUU:!EAd!XAe*7e,H(Hrg
 a)Qe?F%Xe=5eSAGcA2cABd!X;ZeDUN3%XeGALm9n%XeIMINe<BeSHESHeU!1m0ad%XcAB2d!XBALAGm:oME!1ENeSHA3e,Rx;_H
 Kd!X?8eSHITA!1,JcALmOZLeDIM2e,JmF4KAD3eKIe(BeUSHcp;gc,UcAMARd!X(BcANd$AANd!L!Xd!1NAGA>AANm2>f(3cANS
 HEcAPINcARADd!X+2x<;BBcASAL2c(MdZIDA(HdbKABAd$A(M>U$A>Um1H,Mfm48h(O(M$Am0sc;ZcASHGABo^g*7cBAG3cBAHA
 R2cBALd$ABALcmhKc$YcBARA2cBIn61)PmuYcBUm8PU ABfUNd(OuajoLUGm4im1gcBuQoz2u_3dGd^E!XA!1MASHfmhkfmDjfB
 IfGAgm5AGIfGIR2f.1fHAfIRg!1LUfKAKfLAfLUm8S2fLUMfNEf,M!1,MfSIf,RfU2!1m=?n4TDAMcDARm0qA3/1u_VUBcDIMn7
 XnA2cDINd:OU%X,Yc,YcDm^NDnTud>McDUnc8<Tm1w2cDUGm0qUDcDUHcDUNm0q3d%Xe%Xm2L4cDmcmEd!X,Md$AE&H$A&HcE2d
 mf?HA!1DmuYMIeSALnXncEDINcEGIRcELcENm=>Hfnmfd(OENdb>Ad(3cERENc?8c<TcEZm8QAf!1LALh!XLALeANoCko<Rg%Xe
 HAf%Xeb)Qe:Of(3eKU3ewKMkLm:NLIeLUeU2eUDcGAo>mGAmTKDmU?gHAg)QeAB2(H!1TABmEN(Me;Z!1oQ>*7e$Y!1RAeBURfm
 1xDAeDIoA>n1seDUBeELmSdeENf!XoQ?b,HmhkGIeGI4f!1AenCN!1SUemoDLU!1<TeHAm<KHI!1LIeHUB2oi;SH!1HU!1(MeKA
 Ke:OeKIDmjimbV!1wDJ4ohfn4D&Hfn:XePAn6bSARe(Bf!1TURokDDeSUMe,Rr>am?ZnU;GA2cGoRD(Om1VcGADm4jD)P$A)PcG
 xD4XDm4CAMcGm0qosuHd(Hd$A,Hdb(Ocm6vR3cGASHANcGESHTINoniGoT@EeUmGJIcGI4mFuI4m<9GIDIMcmoen@MIR3n@_)Qp
 OOpdFbmsLePAcGISALc,Jd(O,Jd!XplgRd(HcGmCcuQVinN0oQo!Xmxl&HmlB!1>pdW.1mCu+2e+2d$A.1LUGALcGUm0qoMIGUR
 m0q7m16UNm1FoXyHAmdR%XcHALcHm]yn^[q>5YeGADeKINmH0o?2uRAxq17ANnOwnGgLIq80DcHUL2cIdAcIBcmgTd$Am1V nkH
 (3cIGc)QdDIBdRId$A)QSHIR$Am1F UD$AUDmLyILdnmVcIm@qmXPmjVOIMoRyqQwcm0aRcISHcKqduAnTeoJumXRqSD$YeBIe?
 8e<TeGAqcB)Pf!1qVuo58o5gqQF!1SARfn9ceGUemqanA2Io0:KIo08o]tMEnmUgGIgTEeMIf!1NUNUZeNEmqaPIeRUeSAo0z$8
 mu8o0I.UeSIGeSUHURwFPPomteUMUM!XPAqkLeZrvZ2d(OKA2cq^>KAD2/3d$AKAD5cKr2YqG;Kr13*7m9WLcKAMm:]M4c:Od<B
 !XU$Am1Wdh$A:OcKESH2cKIm;CoMGcKIm0qNcKnq^Kmyq^Ed$A^EcKoReHIr^ZKUm2@cKU3/1d,T&WcKU7cKULnDeKUNc+2d>A+
 2c^FcKWU318cLAc<BpcrpPY)PgpdhLpO0r@NnC`IeDAReENeGq33.1f!1.1r_PnkymKB&Hrwufm@QLUn=]NpntKUpI:pHTAs3:n
 uunB8LULnByp@v=5n?w(BpUsMrx]!1?8h(HeSHU2nYtU2pBQTs<@ReTE!1Am;2rpgeUpf2gsEVer0L(MnFbSHnw0?FoXjfmDjqi
 0$As]@(BcLAHSHUcLnCNqFuc&7p=Sq7ZUubAKLcLIMMU2cmX@cLUnA3cLoxdqCT<Tfq9XmkM*7nw0nZY1fpygIeLAm2=<BpvUmd
 sNno0m4zSIK2!1BUe>Uowm(OmDHoTcrLDLU3cp;Fs<am1hm64m5PmOJLcLUopsrk8pstMAoeQnU:MA2cMxNiHRcrsim172t_PiE
 SufCGNcMngauf3VGm;CUNSUBcMURGU2c=5onW+2eZshc=5fp^3NqH@=5cMUSH3nfMqyrd%ucog2cNArByTd!X.U(Hd>Am3cm4jR
 cNAM NUTILLUm2]m0q2cNEmGKUDma@NqGKcNI2cNpGor=Lc)P!1cNINDrUKo0Yn3q.1n1dm8@ovyqu:A ANg(Mhm7lcoqiSHcNI
 SAGud=;11c&Hd?F!X)Pfsq9SALgr:Hm4HSALseaqoV&qoUf?FncicpBrdAB2!Xt7QKfBIfDUGf.1foEgfKAD3fLAsxsSILA3fU2
 t7AkBIgUwfKWDcPr92McPp05PIps2Bo[kBUt>?sIBp3FpI:ui;:RIGqmYLo;:ZAd>Am4Iu]@zBcRIt`bnAGn1wm2]mC3DUs<qt8
 NvKnJXLUMro0r14pj<sO2mp:BeUMeURoPY$ASAnZ9SALpXupG_SANroaSARu]xT3t9:LJn8]ohds24od;m7:6m16Bm1GR2c(BdH
 no@(BrwJfdTAB$ATAu^4<G9m1FNm16SHm1H2m1Xs4@mVDmIWIm2]n]EAqjFet8IgeDINt8SSf%Xe^FpHFUGmd2m:<NIGm1Vro@d
 r=mrEJ$ABURcpKxc.mRm%Tu^NImIwUm65o;[Sm=NIGsB4m1V m7KonVcnP=cSm<yu`jRDm0q2cqiAcSUMm0qo`cSm3CR9cTAd*m
 XaHIeMmCtTABdmi1 NI$ANI,Y$A,Yp[6TnI3BIo=g(Br1s>q_E,Rwu2uTEm=`IsQoTILcTIRp1Km@qIRfn4MuZz6>UcTUKcTUMc
 TUm8QUR ZA$AZAcUd.1dU m[BU PA$APAn@`SmpkSURfU%A$AU%AcU2cUBcUDd^Fr4gMIt:QAj%Xt8wvept7UDUGcserpj^DAt:
 RfUcUMBINcUMm6U:OePAcUNm^>UsEVURp3gURt8wigNAr0<HAo4@q[S(MgBIcUR4cURm1gI3cURUnYSoessHyDUNsH3sA>HAs@l
 qwTKIoGfNePAn3onN@eTUm^_.1qhKRUDAmD8Dq3cUcoJDmFDKUoTq,Rm3cXm162m16UMXcUTUKIcUZ3m`[cUZUcZAqPA3qmXcZA
 GcZAMXcZE2cZId$AudFq3cZIBdKABA(HcZIGcZIZ2ud:Yq=OcZnufZUMcKAP ELAMITEcABrc8cpQ<t;ER!XKUw`AspKFrHmnrB
 m3R3c,Y!1.UcDUBrIct9hw!XnjdcGAm>4N!1KAKrl>;ZcGE22cGIGcHpwHKAm6uSHEn2X3oyXs4qsN^mw5PnMJULmuYR2cp<]GI
 rNq>MnWwnV@Tt9Df.UqtcHqfP!XZq]i4qNum0q9qPt!XosDGIqDI+E+D]VptX*MpmmpNXGt78gTI2cUM!XMEcU U@12400bt_EH
 !E!I(Mt`gnta?zL,Ym6Gm6SNUm5>m5LJGmNTtaL7m8pUm8n!Ipn3m4Hf,T&Wd!Nm3gm?9Jm64m>vm:imR>m<j!XGAL!1,YhMINd
 !JBUm;@m4HmKeLm3sESH16gm[R1d!Nm3ssg^gm1G4m1X AhBd!Ym6DASH9d!2m2LIMIN3gm1Fm6wZm4XUSSUgm163d!3m8AmA8m
 1X3/1m2? Adn=k(Htb6;mWJANn05mXCQm5>m2_NIGIDAmbFm2>Eob_JESHE3m<I!J;VnJjI=Bdbw8lnm4zmZ^ddm5`!J*9(Meb(
 5d&ZASvjGFNw8xTg(5d!J(5GUReb$TdoYbm>Tem=>e+Oe(JnZymO[d!Qdd!Ydd!2dd!Zdd!3nrc7taeiEmDN.G?6d!7)Ndb(Aew
 =kCeQUADm2=m;R80b!Eoq:t8DZcADoO2c*7!X,Y(HcBAnQ4AB2eNIeZAcBUr6P!XNA2cDAqUoovwpG?DIMoJTeU U Um322!Xt=
 7VGoopsyXAT!HrPLprl?8eGt:;_%Xt>^HHIt8x;:Opf2^Ff!1:OeLAK-020e&7f!XsE7H!1,JepHDeMESqZ]NIePIq0c%XcE2m8
 r,Mc?8Xc<T(Ot=;0p7o(MfHIsxtswmLALfMEfMESfSo24XpS8mh<eDIM%Xebm[S)Qg:OeERt9Vt!1DIgNEeHAp[F^FmU>mSZt9K
 _t9N02gGIsjNMeq4it<TypG0t<CfqQV,J!X,J(O,JcGU2pHx.1mc]n4fHA(H%XcpjZ(M$Am1iprKBUeKAn8=plVplGZU$AZUcmt
 t03m1i21m1j5m1i30m1i50/m5b62m1i79$Am1z%Xm4:8m9j81m5r8m;E9m;D1m@t14m3T210m1j9mDK2mIz228m1i3m1j65m7M3
 43m1j7m3w83m2@9mAH441m1j9d!XGUrWg,M!1LU3gbm1weqs]BAm825m;U57m1i7m3U8mFg4mBP92mFG49mSe5m<[60mSe61qi0
 (Mt>jS%Xt>fit;quTEeU2rn?m;436m1i48d!XDUBnaLt7afNImVvmWntA6Q!1KIm>>724m1i49r:y%XmKsdoePeHsF]Mfm>Ys6L
 MI!1ZA7c=5$A=5qA6gKAKr<Yo6Nt<c<LoXXKq<8enTxoREmP3t8V4UmMPrARmIwHsORENe(Bomb,Rt8]i(Hc(B$A(Bd!1HUp84A
 M2eSAm6Tn:HoMhNIeErwQcSIo5x,R!1SAGcTrRHsr?rGVcUR2%TsfVDshs!Xt@U_mR^668eLU3cm`ko9Pm>4sRT5!Xm<y(H@12F
 9tjUlO-MINOAN!ECMtn;Ncm1g4/8m1g12Bm1W3m1G5m1G7m1G9m1F2m9h23/m4I33m;T44m1G6m@B49m6V58/6m1g66/m<z75mC
 d7m4Y78/1m;d94/1m;s107/mIF112m1Fm6E3mR<@13000au[GVIANthEi AmYF4cA005Am1F6m17m2NBm1F7/7cA014m4815/2m
 1V7m2nmKSA032m3233m8b40m2m4mlBA04m5`43m17m2M4m5@mG:md224cBmKeBmKcm1F6mYwmzI002Am1GBm1GCm1FmtC010m5N
 11/13cDm9w7m1V8Am1F9/18cD027m3228/m7J31m2m32/2m1V4m2n5msmD046m32p2@m1Vm>U49m2n50Am1GBm1GCm1GDm1GEm1
 GFm1GGm1GHm1GIm1F1m=@2m=?3m2omHb55/1mKc6mQG67Bm1GCm1GDm1GEm1GFm1GGm1GHcEmaBEma@m1F9m17m2L10/6m1V6m2
 n7m17m2M8/2cE020m2m2m=@2m=?29/5cEmhZm1F6/2cF001m17Am1F2mlRF013m3214/7cF02m5p22/9cFmwvFmwu5m1V7m2n8m
 17m2M9/6cFnMZm1Fm2M6m2M7m17m2Mn<TF05m?[51Bm1GCm1Fpn2Gmd25m1V6Am1F7m17m2NBm1Fm=NG011m4812/8cGmbwm1Fm
 <:2m<927/9cG03m2n37m17m2M8m80nszGnt0GmUOGnsy8cHmKDHmKBm1FnXmInx8Inx7Inx8In93I010m17m2M1m17m2M2/3cKn
 DVLo6>Lo6=Lo3Z3cLmDYLmDZp<]m17Am1GBm1F2m5@3m494/6cMmEpMo>Mm1V2m2n2Bm1GCm1GDm1GEm1GFm1GGm1GHm1F3/2m1
 V5m;tmA76m2M7m17m2M8/4cM02mCS23mFE24m2n5/3m1V8m2n9m@13mU`3mTJ3mTI33mNe3mU`p0EMp0D3cNmh[7cN018Am1GBm
 1Fn^JN025m4826/m6um?ZN034m17m2M5m17m2MplVNnGwm1FmU>Nn0mm1jm7Zmzgo3JNLm^ONLoC<NUm8P9m1gmvom1V1m1Hm2o
 2/6m1h8m3D9mVTUmirOn>Pm16m2MnJyOmFum1F6m17m2NBm1GCm1GDm1GEm1GFm1Fq;BOmJ<m1GBm1Gm9F11/8m1V9m5N20m17m
 2M1m:^24m2n5m17m2M6m5@m:M30m17m2M1/2m1V3m2n4m2omQ73mQ73mQ73mQ737pq4Op^Bm1FmNf51cPmbwPmbxPmbwm2n3m2n
 oyyQmuy6cRo5iRo5gm1F3m17m2NBcRny_Rmc^Rma05m1V6m2n7pdwSm=qSm=pSoC]Smw5SqisSqiqm1GBcSqk>SnHnSnH]8cSoq
 ym1Gm6u27m48nZjSnZj0cTmE>2cTmPbTmOJ3m1V7m2n8m17m2M9m17m2L10/1m1V1m2n2/4cTmVvTmVv5cTr8mm1Fm?kn2iTn2k
 Up7PUmYGUnUKUoo=6cU023m4H24m7:nCOU030m;Rm@bUrIR9cVn6Pm16Am1GBm1GCm1GDm1GEm1GFm1GGm1GHm1GIm1F2m17m<j
 3/4cVmbWVpndVpneVm_4m1FmCd1mCd12m17m4z2m4zrQ2Vnoqm1GBm1GCm1GDm1GEm1GFm1GGm1GHm1GIm1GJm1GKm1GLm1Fn8]
 VmhJm1F4mQ728m2n9m17m2L30m17m2M1m17m2M2/m2nm<j34mYh3m^p3om@Vp@UWnMlm1V3m2nn2XWnI3Wq9wm16m2MoPHWnfKW
 ne5m1V7m2n8m17m2MrBXWoXIWoXHXmCs3m1V4Am1GBm1F5/1cXnNrXqAiXndOYnF@m16m2Mp=BZo:VZn=km1GBm1GCm1GDm1F3m
 17m6E3m6E4m17m3d5m17m2M6/9cZq@qm1GBm1GCm1GDm1GEm1GFm1GGm1GHm1GIm1F6m17m<j6m<j6m<j6m<j6m<j6m<j6m<j6H
 cAAorpm1h7Am1XBm1W8/24@13430c!7[Ncb$3ctZ@9 AT&UtJcDeb(Ne&U)Am1wc<F!8c=Hw<GDcb)A@14400aANATOLt7m[9cA
 nDUAr8^5cAot:m1Fp:AA039m3240t7_91m2nq9wt7azm17m2NBm1F7/1mBL6m4I6m4I66Cm1F7/30cA09mbw098m17m2M9mDH10
 mM>10m2M1m2M2m17m2M3m7]4m2n4Bm1GCm1F5m17m4z5m4z6m987m497m497m97o5gA1mdBm1Fm5N1r2iA11m=`1nS>A12m2n2m
 2o3m2n36/66cA2mN52ni<A2oxBm1V7m498mI62oCkA210/5m1V5m2n6m17m2M7po8A22m;328/39cA26m3368/2m>D8m>E90mCt
 94m2n5m2om5_300mPa3mFf3ptVm322m333n@^3pa4m1FBm1GCm1FqNeA3qtcm1Fm5O6m5O7/22cA35m=p6mIG364m2n5m;C68m2
 nsFmA37n=J372mL98m2n8m5>83 RA OR RIm33m5O4m;38mI787ml2393!Zm1V4nkz410=H_W!Scm2^A)Am1g1mlt4rGwA45oG3
 457m2nmri5pK69@16800uh4hPHASE-A NGKUE MFONdGBIEE m2<PONm49 PIPAEMm5Ofm2_BAdNAAm:_SHUENm16TdTITm4[bN
 ZAdSHINDA PA NJImA6m2OmA_gmA[Mm1Vm4IdTU MmF7GANGUm65VEUXdMANSUAEdm32AENGAMdSEUNYAMdNTOQPENdKEUKEUTN
 DAdNKINDIdSUUdmarNZEUMdLAPAQdLET KUTdNTAP MFAmKtKEUPdPASHAEdGHmENRAEdPAMm3sx?vRNGGm4yTdNZUN MEUTd
 U YUQ Nm;7m1HmCDNTAAdSISAdMGBAm1VEUNJOMNDEUQdMOOMPUQdKAFAdPA LEmH@WAdbmY6PETmfpKm_DNIKAdPUPdTUAEPdL
 m1GSONJAMdTEUTEUWENm:<NYIdKmR]DAAmUSKUOmGlmV5SHmiPOMMAEdFIwwv>MdKPOQdSm8@AP PIEEm8aIRm[EdSHOQ nO6
 T YUMdNYIT MONGKmDiQdPAAm9GKm1iUNKNOWNdmKcmPASIdmTjMBAmR]NYn_PnGGdSOTm=_MdNSHnSomeHd.4dKAQm48Au3]DL
 UdNmiPAQm>TQco2VB nocn`:nbuSm17ET TUmbg NTEUmJMm7kLEEdKIEEMdYEUmTyMBmVgKAMdPEESHIdYAFUn;T&7mfPnkKoH
 HSHEmyawcTiJAAnRjnRJMdPImNvNmM0HETm7ZQm2<mq@TUdoSlmgUm]8mweBAAnC_.4mTknrBUQmBOo7eYo@yLAANnt?RUMdVm9
 6NGo;; MVOPn4fU MBUdWnQtSAn?7dTn1BMnmTNGGUOQe%HdMFIYmP@UmhJEURIo:4m`JNdNYAEnZ8PUNGm<[To?cnXLFo_=Bmg
 TFmwumeJMopsnISAeNJUQAoUgmGZnKPnTvdKImKcOMnE^CpH6otop9:nhVWAm4yOQnb5NDo_=EEmc]AmlRAnD6EEKmO:GBAnfKI
 R MKPARAQobNNdNnX<BITm`ln=:Rm`LDOmo4n5Z CABBAGE-TRm[Tn?yPmENPm3RmH0YU MUOmk<p;Wmg4Em^>o2EmDjYn0<mJN
 dKouPmoTNDIuYONp>ZNJUEQpm>YUEdpXDmn`m>ungsp_9NANSAo:vA n0MRIo]@AnDVNpVHmHqm[Sp?bQdn`6NGBAozbXm9hMdF
 mT8DouaNSAoPjQdBUNGdps1PmXrp_9RUocTEMd&7mS2mh[NSUOnQROMdNJEEmnomVGonIMBnRXob_pu<oqIm9xWUnrCUn>PNSm=
 _To3ZUOP p4OmCsn:HnhFAoIQYmb6DpDMmq0SETFOn1SqWLAp:Cn@^npym1FKopUA PICmR]YUWnaLJm7[p>Yo@ySHIQdKEN LA
 WeFATIGmmyGmtsqTHIQdPINdml2TETnw3DoPXOdWAPdr1Bohcm1wpKwm16NJn0NHEEo;mn[NnHLo[[NqkMrEZo1bPoJ6TnvJnAC
 p1MmtRPo^hmY7AEq;Bmr6MdSnOwFmF5Dr>RpMRIdqE@p;XYmFuo[;p9ZnC_n=kmHroo^TUo6<nbsKYEEojoFr1EDmnNGBOFqTin
 WxoG2NozNIm5NmTHPUUTdpxPmhJuja4nBzPn6QdKWm@@qGDn9fn>cRmPqTnbtq[Vm^`nUKqhlrWyIPdPEUTmv`UEp;MpR@n2JWm
 DXYmmX,Mm1gPncZppqs0zKUqk^oAqKs<BOTmrVnpwqcmUrHnrGiJmEbPmguMoVNqofUToh5rk[KUdREN&ZdmRLTOQqtsRIIdLm_
 UMm1HsBEMUnlNInLUXdn5lNUd.UmScx1ICNIrOGdqKBqAxLOQmDH MUCHdTouaUpPF!2doqyFAAntbE oHYTOoFnsWvdVOrl>ON
 rMkdoYNRrK@moFnGVqRoq[dAdKPmQFWUOx0a0s3Mr[0mCRnoamP0r^oop2PmrFm=`n0_OmDkEdRIpJaoYAPrQBSpSHrRIm65GHm
 ;Dq[5unn4sB4mW:n93nZkDIQn1sNrehSmP0UMsW3 SOFwASgpqGpx>pqwYmS2mENNsiYq9FqzwOdTUoPir?8SnvKrWXpeodWrP>
 rtNUq>unOwolMGEURodqQmZmpokqRmn0mKOMdGBo>]re4UoijPd.4CLEAu<0HqlRFrW7DIApB@EofwnfkoWtq<kGBmm[UPoxSmJ
 oKAAMIm^>TdFAnVqsL@Uqi1MnB]d.4+VdNZUQdPnRipaUFmMNNApcRo2HFU IdMVInU:rPmKmVETmOZTt7GpYEqqTo_LA PEOPL
 m<ICALLdFqR`dAo?tOdIdLAQm8rLURALmu8dTAQnADMY HOUSq3vYmaRn=ln9CYOQ SWIMMINGeCOmqbUmmis^6ncYUXmGl EPO
 CHdPUEdWUpUcEt7Q^MIdRm8@qbxGmXQ$5oS:oT1mWZREMEDYtYHLIoUWKOdMsHJMAQnUkdKs`Rtv6qFnRzsLEF KAdr5kdEx4Mp
 Tn4vdLAovGRIov;TqycAo7ToyIoxgIrx8KYrKBpblrUJmjWp<LUdYr`Hme[TEmcNPEr_RmbYKqcNpeLpSGmbFoo=n>1WAdLmawn
 xwRmbzOq=qTq0@u:9VrN0VUEQ@16A40aMRO!BTAx5loYOtsBDBtXq@Ac)xFz_IcHAOcDAIv1yLKEAAEcOLcp0DtJx2PAxeU`ROc
 Sx=JXEAcEth`>vD3RLANwkK2x6z`TEKmIw6t[p6t[itm8AujyxaTANGSA!BOZcOCcOQcOXcAZcACxcnFXcVZcVCcVQcVXcEZcEC
 cEQcEXcIZcICcIQcIXcUZcUCcUQcUXcAWZcAWCcAWQcAWXcUIZcUICcUIQcUIXc!TNGc$4UEXc&EUEZdm81ECcUEZcUEQcm5_UI
 mAwImBLImBmIUXcMZcMCcMQcMXct]9nSujFzt]6UFt]7?Nwzi7HTtYxYRtic=$8cCt]>4&BcHTt]DyulmF%ug@@ZAmouCmxHmxI
 D0aBASSA VAH!BENNIuvEREpB0MBEpsqtpE2Do1_KPAHdJOdHWAHnhgZOdGBUdDOdCEdUWvHgend?dYEu;rSWADDAdAwlb4x?f3
 ImIwF0c&VxfiAMIDdbLOW-m1xwY[wLOWcuOUk16B00aPAHAWH HMONG$DKEEBdKEEVdKIBdKIVdKAUBm16VdKm1wm1gm7[m5_m7
 ZAm7kOOBm16m4HWm4HWm9wAm:<Am6Tm6DmAgm3sIm3sm1wm1gm9gm9VAm3dAVc)8VArgPSAUdLAUdHm32m1wRm1wKAUdQm48Ym5
 om4yMAUdCm81m1GHNAUdPLm3dTm1Fm3RAUdXm8PAUc!SCIM TUBeSOeKESeKHAVeSUAMeHOMeTAUMc!EVOS Tm3SSHAB Cmlcm<
 8CHrVPm6VIABeFm3BXYEEM NTXIVe)CeTOVeFmmim8PSmx:MEEJ SUAm4:NRUAdIB rNPXAUSmCCTSOV ROGn=:t]l;t]6dm8AB
 c%ITENSdt_R7d$X[8d_Xdb%7d$XBIuIR0SdTRm2?m;s63maCLUBdXYOOdHLIdbTHIRD-STAGEdZWJ THAJdHNUBdNQIGdXnEJNT
 UJdAVdTXHm^>Cm`OTSmoD+8dLOSdMm^QHAImEoS NTOGm17eCUAmc]HOOJeTXWVfCHWVePUB DAWBeNRES TOmT97DvSfs!ETSm
 GZeYEEGeLISeLAUJemWkJeKOOeHAWJeMUASeTHmB]SABePHABnKoBeHAMeVAJeFAJeYAm6eWBeKWMeVWJ@16Eq:]EDEFAIDRINu
 wk<dSy?MkATIUdZdKPwjfRGdFdIdKdAdJdEy?^JUdYUdLdQdHPdNYdXdDdOEdNdRtgyzYb!Cm@nm@pm@pm@ppG?pGMwFDWwFDWu
 4GBtx6ym>Dc!LuyhfuihcVAb)0OH@16F00aMIAO!Bt^kjYI wp>1tmQY+UMv0sOVFptZYI%Zdpq4Zc%0tm_hYI&Gc+UNttT]NNq
 4kLYAx:g>YAx;7`DLHm2=Ym2MYx@oEmJ=KxDwUwwTKmK3v2Y2&Bxa`lTSSAcDZZAtn64.FcDZmKd.Fdm2=wSEZMED.FtbLUtaX@
 SHqNTwpg0I(Wu5HgZSAv9_2SmGkm2NYm3SqdTAHcmIVBRIcSYIcDZYrUJx@k]RTEmvN4Fb!E)8(1$Yb!B~Eb!EuqGDIONmN9 y5
 nDdm6:tienAHHdANd:EqKtufcPdEuB36EYdIdIAdIANm0qGdIOdIEdIIdIUdmAwx4WkUANm0qGx4[2EIdUNGdYdYIx4Zmq^>RRd
 b<GdEm1WnkHEIpoiOUdsaydUOGdYUIdOmHaRdVWdIGdEAdIOm6Dqk<F8Fb&P!GvN^VxniM!B[9/6mb[^5xNi;4/2m1yqmXFE0sB
 5UTvRv6cNUSHUab&Zux9u$Bcb[LaKHxkMwC*1=Om;cF0aVIETNAMESE*5vF0:!SCAeNHAYx2o]mCF COMwJoE-tHn_67@1AFvN@
 :MINNAN[9/3m4Y5mQH7/1dthF8IZmXA4m6EDem6Hwv[F0c+UEvSGo+UYEaHENTAIGxmlRA-1/2cA-WOcI-1/3cU-1/4cE-2/4cO
 m6EKm7k8m1W0/1m1gKEcKm9w7cKm:<6cKw?8<cKm:`O-KIcSAm7KSIm5pSUm34EmDYSOm;tTAmHrTIm34Um34U-TOcTEmIGTm8q
 5m1VsaymMaNm:=m1VTEcNUmHrNmKtm1VKOcNOmEpHm:>HmWnHm;uHm:_HEm34OmPbMAm33Mm7]MmMaMm7Z1m1Vp>HmMaYm8q4xK
 gkYm8cYm5qRm]JRm>gRUm4ZEm4Zm7]Wm=PWIm1Xm66WmjyN-MU-mF51nB;WUnRynD4IdYEdWU@1B150vTaRWIuQauOm4X64m96m
 4`dN@1BC00aDUPLOYu7wacXcPcTcFu:^_BcDcVcGcRcP NcD ScF NcK McR ScTHc?NDHcDHcKKc?NJcHLcLHcRHu:jwJcSc
 M NcxANaJcS JcMtzuDcNccJe$I.P!F!KcSm4Xf!VcM ScbNm9VbScbm<ibm<ycm3R JcJ m97dNeScS TeRdPeRcT SdbRcWcW
 HcW RcS NdMcK mRmcGcS KeRcAc?NOWcOAcOcAOUuIHuIEc&EIcUIcEEc?NEHcROMAv1j3m3REc$4IcYEcvRt:XWcU Nc$4Ucb
 m8ecUmhZUcOOHcmDHu=`pOvM=[IcWOWco[; Ut;7>AcPERNIN um_mmENNpieONc%PMn:y70bAFFIX!H$3SECANTy9rLpL]$M!y
 9ua7cb?Vdb^Gdp36ENTd&4dE$BdbsbNm4:mAV80c$7%Rdw<]Qd%6xn<T!Od$Rd%2d+Hd!7m8a90c$Mm8im8pd!Pm9GCb!EO!A(Z
 sy8CK!BuY@Wb!Mxn:ipbZOOKr]uaSHORvs_<wbx0!BvWw9PctvexINGc!5vZlJbUP@1CreuZpiDNNY&V!S]3=8S=YON!Hde=8dc
 TSATAdcm5>dcm0qSREDNEdcMALO:Udcm0q]Dm3VS KHOKHLOMde:Ude]DdmB2GmB7mB;mB;mB;m>E S=Ym7ouKbsNNO m3E:US=
 Yem4[d]Dm9Fm5qm4M3]Ddvhl6x]VTVNOdTIKHAYAdBORZm1gUDARKAdPODVERTKAdLOMuHpsPNm6eKACHKAdZEVOKdSKOuuCZZS
 Em7ZRYZH mwDn2i30cTtd@TRn_@!SMRACHNOfSVETLOfTREm2>c!SZADERZmBmbDEMESTVn>PdOTSECHmNFufR0IEevnrCdm3CK
 AePOLmPQOBLmPqOdSOROCHYA NOmAWTOm>EDVOEm2LIEcATTAncHG!7OMETcb!S<RmXcc$NmVl=UbPRIZNAK(1tidc-2/1dwcL
 L FLIPm<:dROGmeX50bNEUME KRYUKn0nYcPARAKLITcDVA V CHELNUcKLYUCHcZAmTHEKv[XuviQG mVTOMonFEVODKAd^Qm6
 j!AmalcmAFYUSTKxXR]KAc]v[CgUBCHIK nKNYmMadn9DYdn77Ydn9FYcVRAKHIYA_6m7mmz7?Qd|Ud[Q_6em4^e?Qe|Uc!M]Ec
 %AmJSDERBmRLcKHAMILOcn?zcnEacSKAMEYTSA mEznqqcnSv moFm;X[Q?Qd~7d[Qo0m|2_6mOJ^Qe[QcSLOZHITIEdS]FdZAK
 RYTOEdS=YcnLgROGcFITAcKOBYLAcZmC4cSTATYAm;ce=Yeb]FIe=YIm>jmf>mAgS ROGOMeDVUMYA ZAPYATYMIe]FI mbmMcP
 OLKULIZMYmCfnFQRELn1yOmZ>oLdEVm2LPOLUPOVODmmY_5d^QdmiBEm54~7mqu PUTNmico:EnhGOmAM~6d|2[Qdb~6d_M!A%N
 ]Edd_Nd_Md_NoQNM]EdGROMm;je_5cMEnb2dmIHYmL]VOm2Qm5jNEPOSTrq<NYmcO TRYASOGLASmSSm3Dm<9m3Ym9VokvcOSOK
 nWJoN^OmNT?Qdb[nMZmBam5qmTKem_8em]i_Me_Nfm_6em_?f_5emHbxM]DFISMAcp9ZKOcDUDAcNEMoO3UK"

end Componentry.Text.CharacterName
