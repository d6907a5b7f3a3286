/-!
# Names of characters: Symbols

The names of punctuation, arrows, mathematical and technical signs
(Unicode 14, code points 2000 to 2E7F).
-/

namespace Componentry.Text.CharacterName

def symbolNames : String :=
  "@2000aEN.6abEMaEN:Zm1xt@M@PER-m32FOURm2rSIXm5TIGUREab(Qm;2INabHAIRab$OWIDTHcNON-JOINERc[Na^G!Sab|
 Ga;Gabm5ou^3wINGam?])mK2NmKt$3$YauPTC$Ma!H%Nu]Zed!Gac%NLOW-9bcHIGH-REuE2@D-9ac!H!Mm7m!Mm7km7z]Tab!M
 a:Iab<La!J!OLEADERac!Ia$3]YaHYPHENtnH]:Ta%2+Fab^Xa^GEMBEDDmVDmZmPOP DIRECm8qAL FORMATTm6e^GOVERRIDE
 m97tAQ4u^iJuEcgbuEcbuSJHmQGb&0ab%Au6RLm2]<Pa%N+3u^HEbd*ZabREFERENCm:^)0a|7a^WaUNDERTIEa=Km1F<PINSER
 m[5uA0wMa;G:Ia+A.Vu_Vg!AQUILLae!Ga!M)Jn@m)J)0ab)0)JaTIo[:AN!EETa%Au^p0!Ea!R!0:Ibb!Wa$M*Ma%A:YaCLOS
 E UPa!ImHSKS ALIGNED?Ta]O+S!EaSWUNG)Za%TmVj]Z(Q!Sa!L!O(Qa?Imk_!Nm3Cc!m0qIm3C!Sa)E(ZaTRICOLONa!7!N$I
 a%C[R:Za.G[NaFUNn=[ APPLu;ugaINVISIBLE!Xb+Fb!1@2066a^GISOLATnB:b=PtHcMabnMfaINHIBIT SYMMEmKB SWAPPn
 Q2cACTIVm>em83,B&WSHAm6Edm6IngcAL$Fm64ESacu6I7La;T$Ot=g2I@2074ua2btHir+SuRmitHw4bb!Gm;UNa?Oua@0m=^m
 =^@2090t?x_uRXCOeXe>KeHeKeLeMeNePeSeT@20A0aEURO-CURnoqY!Eab)NabCRUZEIROabFm5>H FRANCabLIRAabo;kabNA
 m2nPESETAab?JabWONabNEW SHEQELabDn6QmENabKIPabTUGRIKabDRACHMAabGERMAN PENNYm@bOabGUARANIabAUSTRALab
 HRYVNIAabCEDImM>VRE TOURNOISabSPESMILOabTENGEabINDIANmOkTURKISH mXBNORDICoDaMANATabRUBLEabLARIabBIT
 COpd6SOM@20D0a&V!H&1u:UP$4pWN<Fbd&Eb,A!Pm5>.Zbc!Hm6wm64m3d,Au<v6m<9NbENoOsING$Rc$Wc(9c$R>1uT:7Km7
 0 SCREENcKEYCAPcUPWARD)S&Xb*Y*J<Fp<LuNdsANNUITY!9b&0oYODOTt>yX?uTcT0!Pm9g$4!M*Jb!W&1!A&A$Jbe!0mIgPu
 ;6B*M!K@2100aACCOUNT OFaADDRESSED TO&8SUBJECTa;C!DCub6: CELSIUSa%3%2!9aCAREm<XCADA UNAaEULER CONSTA
 NTaSCRUPLEm=RFAHRENHEITa*1!CGb!DHac]Iac;CaPLANCKm=3c$A!IPIm8qDIm80m2=Lbb!CaL B$Y!9mQWNaNUMEubPT.9RE
 CnOFNG ubkum;tPmE>cQm2^RmHgRESCRIPpBrTAKEaRESPONSEaSERVICE!Sa<IoGcTRADm32qnNICLEmJ^ZaOUNCEm6uOHMac%
 Ta]Im4y$V+PsHZaKELVINm7ZANGpMBMmLjBm97CaESTIMATED!9mlSEbb!DcFac$Vm8bMb!COa$E!9abBETab,IabuK=:a|6SOU
 RCEa+E!DQaFACSIMIqq0mQwCPIc*Sm@rPIb[T|Qa$V;P!DGdLad%Am35Ya;C;H!DDcb!CtT9gJaPROPERTY%2a$V>0r9R!EaAqq
 PSELSKABa$V!CFa!9(EuAT@ mNgucO@SEVENTHdNINu2Jpd;Vc!I=Bu2Ijc!Im1hScuCmD!Nc!JSIXm5NQm1gu2Rmu2<y;mS2Qc
 b!2a+Au:VJabROMAN<4tGvCtvH[Xc:Lc:Bc(Ju2SBm?[!J(6a!Cm=1tGw[tvOfXd:Ld:Bd(Jdm=Ndbm7:m=Nm=3(6C Dc!Q(6cb
 $Xc%Am8aaqH2%ACm8vYquH&Wcb(JEARLYdm:]m9Vmsb$O=n1B$Fm]9@2190aopcab$KarcHb$Jap<nabUP!5ab&C&Fbb&Sac&Kb
 b&Fm:=!A$Cad!Wa!0+H!Pacm<X!0!IHslJDad$Km6fd$Jm:O&4m:O!P,1$Ym7SmFem7kBASEmD]Bm:A!A,8m2nmPPmGkcmKf$J>
 Z!Pa$Km3R:2!0esAoJm3:!Wm=pE$Jm5Q,E!0a,A&USEMIu9R1!Pad.Zamc<!PTO$4$Ym]8m2^Y$Am>TTOa,A$9$Rm9Y!0pe`Kem
 CRKm34!We!0a!Wm6=Jm6>!P$An5]mW[0OFn5[0m5?WbPAIRED=oe@KmzhcmvO&1m6T&1n@Lm2^nDUMmj9enC?mdcm4Zm=Gcm6Ec
 nIScnISc&Sad&Kbc&FmJL&0nFTSQUIGGLEm3Rmzz!MmDimLY?4mC^moynAwUm74m>DUnP_dOr_0DESTALf!A$3$Ygb!7cmUNem6
 ;moDm;3WALLn<j,EmUo&Sn^;mF5r9SA!C$RnK_mwVKm5>L!W=nxZr6@mlsmo7cm4lMaf!Wafm4I!0t]0@o1ao5Xmrj(EmL8tuL8
 tuJ<a[Z?5aTHERE EXISTSb;5&Dm2Ma>5SETaINCRm9YUa?7OFac&DANac!Ca?ZAS MEMBERacm<HCONTAIm6E?Zau@nwPROOFa
 [T<6bCOPRODUCTb|Qa+SqL8ugJ]-OR-PLUSa!O!1a=M.VaSET+Sa*M)Gu[sib:Ia$WROOTabCUBEauNpmq5OORt9GiTOa]6a!G(
 Da(Dab^sO2PHERICALaDIVIDESamT8m2_a?GTOm]Xa.2!FbORa+1a,Sa;9t9I7m^>OURabSURFACEabVOLUMEab.Zbm6Yc,AmwF
 FOREaBECAUSEaRATIOmS9a!O+SaEXCESSaGEOt8Mam7AuZn3a%B)Ga%A%Ba%TLAZY SaSINE+HaWREATH<6a&D%Bab+SaASYMPT
 OTmc<LY%MTOad&Dac]HbcBUT&DACTUm5oad^P]HNORac:8m7m:8%MORa&0%BaALLm=?b>7acmRrm<IDIFt:1q+VaAPPROACHES&
 8u0b>m]]mKz]Hm1V OR&8=TOFam16 ORm50a)N(Sa(S)Na$2INm48bb%Mn5JRs>_DSrs=SaEQUIuJYXnNa*K(Sa*Qm?lmEpBY D
 EFINImwE^NBYaQUEStwTr%MnNtbIDENmp;m3DSmV4TLY>7ab%QOR%Mad%Sac%Q$Am2@mujae%SaMUCH%Qb%Sa+Va&D>7TObm3T^
 P%QNORmZ^m;sm@b>7m>Vm6Gm5Om5>m1VSOR%Qm;xSb%SNm3t.5a:Aa.5m@Rad:Aab.5m@R:Ao2fug6wcSUCCEEDa)XOFab)Yab&
 DA)Xcm2Lm4H m>he)YmLXAm4INORcm3dm32!A&Daf)YaMULTISETb<1b,Sa$WnB8bb^VbnD5m_xe^VbCAPbCUPa%4!1b+Sb!Xbo
 hBb!O)Gu^Rb*Mb(Sb)Za(3m7_m6Ua!G*Lr]uabr]4UPaASSEo?TMODELSaTRUEaFORCESa&0!7$Y!G|pVyMm2^Mmh=OVEa&Dm9g
 m3dm:^aNEGATEDm9Jm<I.5>WRELAmE`c:Aa<2>POFpV9m2Lm3SmqFdm5C^VmzF=TmmkMAPaHERMITIAN CONJUmGJ MATRIXau2
 weCAsQ>aXORaNANDaoVmpL<!AARCb&Xa[TpDLcORb+n2z(9p^s!Oab*Ka=M!XaBOWTIEa!H<2FACTOR rmet;Y;<6aeqO;Hac!p
 3ioB4P.2ORc!Fa!M)Xb)YmCvPITCHFORKa%M!FpaE%Q!A!Oaco3J9o5ycnz4ofIa%Sm2=nrdd%Md%Sd.5nnvmqQcnp;&D$Wn[vc
 e^Vacm4=&Dbf^VaboPK>7oPje.5ae:Aa&Dn;rq`A n8p&Dn>Ym7jogn!7]YabtMyN$3ngq!G(Aad!5qxl!A$4tk]0cnY2ATqs<a
 kr0m7OtHU0d<Eaem3x.Wd!I$3tkkVa?Zm>Hcm>Ljr?7!A<Ead!CaZ=9BAGrAvSHIPaDIAMETt8wD_H!PaHOqVDUP*6o@yqVuJEC
 TIVEaPERSPm2`=C%2a!H?YabrkiH?Bm1x(N!GCROPboN]uHqXm2=%A&D!EogmZaARCaSEGre5SEnbBa<It:GdERa_4=UaVIEWDA
 TA$WauP5Zo2UESTr^k$V&DaWATCHmU_RGLASSa&U!H,EbmLyb(N!Hm2=&U$T;9ac(NaFROWNaSMILma2+VmuiBARSaOt:WdKEYa
 ERASEt;DL!GaX nGV_9)Ma^Ba+3(D%Yac*Zm8HHaBENZENE$2aCYLINDRICITYqv_ AROUND-PROFmIgt=nLYaTOTAL RUNOUTa
 DIMtKoj ORIGINaCONqQV TAPERaSLOPEaCOUmhZBORm2bSINKaAPL t>JGAL!9I-BEAMdSQUISH.6d.6%Mes<2e(9eJOTe$Rd$
 RSTILEm3Bd.V$Ydb>1d.6.Ve>1e%Qe%Sd!0VANEdb!Wd.6!0!Pem2L$R>tmXr.Wd*Qm>vm6e5<Pe*Qm5OmAw$Km<z.6$K!PdUP*
 L<EdDEL m:aUP<PeDELm64m:oJm:qJ!PdQUOTE.Wdb*Qdb(9dbm7Zb$RdUP SHOE m3Rm826d$R*Kd.6)Nm@b&OdbmCBb*Km;y!
 5m;cmKEc!Hd%Bm8a%Sd&N$YmQF%BdZILDEdm7l%Bd:Y.mfo&D%Me)Jdmaq%BdcUPd(Td)u`oAImSB)Odb(Tdbm3da&D;B!SpxAt
 9kJSHOULDERED$neeBELL!9uoTyul]vat@Lm!9t7ESINUOUS t=OVp9JacDISm5TauYDPab|0a!U$W!A%3mAgaEnZHm?Z|Xo7Rb
 HELMa%p4LY!ANOTCHb&X!5a]K$Rm3cRTHWoTaPaUNDOm<HMONOSTAt>J4HYSo[ZmFvt8dcu>aPIT-OUTPUT H-TYPEbbLm1habP
 AuekD-PULL-DOWNm8tm5jUPm5Bq_V t?MtT!9&W!IaSOFTWARE-o9c!9o=3.6auUayKEY!9aPREVIOUS>BabNEXTaPRINTt>W3m
 >DcCLEARuqH8$0$Bc>8c$N$pVzm3sm3VtAR:$0,Ed>8d$N,Em7Zm4Jm3wupmwm?Zd!8[0dm<Ym48>8s;Jm6B;9>8ab$3%2a$0!H
 OR$Nm8c*2bd!Gm3SHa|Q&Ub(NpVyWpFX(Nd$Am2pRADp4<!9(Na!H!7)M%2tBnV$3tnS>n^Z-1cm1W3m1X7m1X9at7cqSTRY!9$
 S!7!Fq>4fb(Ne!A$Rdc!5!F$3deUPd!7!A&Xm4DF+Hdbm4:!Am4Ym2ooExmAYHmAVa$WFOOTaRETURo7tEqbgo>M>8at8Yj&9b$
 4$A&Eb&E$A$4m33!It_5FSbm20m5_d]7bTRISEMEbTETRAm2=PENTm2=a:KGq2^aFr1c&U)4amva*PmvaqrF<K.TadmtcUTRAPE
 ZIUMqD_mi@atie8GHTNESSaFLAm1yACnwTaELECmXs+1npZ EXPONo2va!R*Z!M&Xbc+3bc:3bc;6bm4:!Arambfm5N*Zm3SMaA
 LARM CLOCKaSTOPr78TIMERm4kr9i!AFLOWt@_DANDa!R%C+3&Xcb*Zcb:3cb;6at7dha!R$W(E%8b$R(ErT6aPOWp3gbbON-OF
 Fm1gbbSLEEPabOBSERVER EYEt>qyNULLcuUu0Hu6p[eTEXTcc)AeTRANSMISr0<cENQUIRYcACKNOWLEDGEcp`_cBACKttKgc$
 3TABULuav7%2FEEDc!7m4O&Wm4Itb@LAGE nb4cSHIFT.BdINcs0yo:eK ESCAPEcDEVICE pkPROLt]eoc.AmN<SYNCHRONpx>
 IDLEcsjo mZ4+WcCANCELm5p%CcSUBSTITUTEcmG^rjR+FcbnkiPcbmzHcbUNITc:ZctPXPEaBLANK!9aqM_mwgEWo]qm6xp^sc
 mD?@2440aOCR$BbCHAIRbFORKbb%Tb<OBUCKLEbBOW TIEbtiFE BANK IonWFtDC4bAMtAla;Bb)ZbCUSTOncHtAr4%Ib!M>1@
 2460qTytuP5tuP?t?r>>Rc=Qc<Uc<Hc>Lc<Sc=7c&Qa_1m>Gm>Sm>Sm>Sm=ouVs^!Ibc!LtBpcc!Qbc!Ybc!2bc!Zbc!3acm@ab
 c:Lbc:Bbc>Rbc=Qbc<Ubc<Hbc>Lbc<Sbc=7bmQ8ughMtUFReFeGeHeIeJtD@eOePeQeReSeTeUeVeWeXeYeZa%4%1!Dm=9m==m=
 =cmICm<Gm<GtXxZa.A%4%It@jh>Rd=Qd<Ud<Hd>Ld<Sd=7d&Qa!MnDet@y1t@y?mplm@1mAx)MDRAp7oS$S$3cb!6cqP@m1z&0)
 Z$3cdm2r!7m2p?Im5f?Im5fqND!Gc!5$Sm1w!6d!6m1w$Sc!6m6Fm8DHm8DHm8DHm8FHc$SUPm:=UPm@`6m6Fm8DHm8@m@`m6Fm
 _5mPs7m@TcUPm@smLicqyqm33oiX!7!6mZvm9FcbmMS5mScmAGmCFHmCFHmCHHmCKHmCFmfxmCKHmCEmVWrKac!HmT?c!Gm>M$3
 mdf$3mdcGm?_!6ccmhkmZo6m@Cmr7mA[UPmAZmvBmAfmT<mAbUPmAZ!7mS87mS<7mAXmlH5mBMcmlDUPccmkocb!Hn;um>Dmvcm
 5_n>VmCt5mhSUPmDjnT85cbmiE7mhu7mVEb$S!M)ZnzwMo2j!M$3dm]85%NmMOMd!Mm1w%Nc!Mo2Vm6HHm6HHm6GmvAm<hMo4vm
 <dm6GmqCm<hMo13m<dm6JHmOM$3m6G$3mOO$3mI6m6SnE]mBmm6Smp^$SARCmekg!HecUPg!Gd(A$0!GTO$N!Hf!Hm1xGe(Zd!H
 dUPd!Gdo4Am39n2iH!F!6!Gdmd36m7M!F$Sm4Ko<qa$0$T+Wab$NtDlBb(5bb!L;Dbb$Tbb!Qm2<!L:Vbb!2;Dab(KanZH2m5EQ
 m9ym<<!J(5cb*9anXLTa$SSHADEab%CabDARKa$0mG:+Wt8DH_7m_4tGca0!Hd!Fm3Bm1GGf!Gemf_m4Jin<uGm7=gm7LsuAab!
 Uc!A<G?0c>2!R!C$Wa$W!A$3FILLoyHcbORTHOGtAjsCROmOkTCHcmI6myCdbn2Lcb(Am7qamAYc!Ua!R_m_DUab!R!7m4;PARA
 LLELOGRAMm6U!R:3&Xm6fbm2]!Cadm2_*Zm4m*Zm4lm2LPOt<pJmAY;6m=D;6m=D+3m4m+mB0m2Lm=H(mRnmj9(9aFISHEYEa=Z
 a!U$Rab)Ea$R!A!7mnNaBULLSm6u!R$Rm5PH$T!Rovwcc$Ncc$0mmy_7ccALL BUTmsLam8B$RnGW?D:IbmDIdnfZae$NnNaH_7
 uIUE ARCbm9Fe$Nbd!HnoA$Rac$NmJLN!G&XpGobc$0p>ya!UtC9:mO4mB<(AcdnSPUm6f7BISECTING%2bn76t?K6m1wm=2dt?
 [6H$Rm;5mQHdc$Neb!Gdc$0bb$Rm5@m4qmZ=&Xt=v[nYsa!U%nVsRn2y%Cn:9RamYHnRX0!ARAYSaCLOUDa^6aSNOWMANaCOMET
 nP<Kn[p_VaTHt<80STORMa:0aAuYW1 NOoKkuYZfaCONJt;PgaOPu_<ZmtR<Im@r?W)Mc!A;BdXa^1a^6mLyIN DROPSaHOT BE
 VERAGEa!USHOGI[0mZ^SHAMROCKa%A+EFLORAL)2:Io?2H)S%Obmtsc!Un>@UPm32bc!5aSKULL!FoI`BONESaCAUuA53abRADI
 OAt?FYbBIOHAZARDaCADUCEUSaANKHaoaYDOX(Za)W)Ca(ZOF LORmWZtrq<USALEMa*K!F?1a[A!9aADI SHAKTIaHAMMER!FS
 ICKLEaPEACE!9aYIN:7aTRIo`c(EHEAVENcLAKEc;Fcn5nc>Xc:4c=3c:KaWHEEL OF DHARMAa!U_L$6bb,PmoE!UnJn=P(5,9
 acLASTaMERCURYa[C!Ea:KaMAtIGwJUPIo`cSATURNaURANUSaNEPTUNEaPLUTOaARIESaTAURUSaGu_>eat9]4RaLEOaVIRGOa
 LIBRAaSCORPIUSaSAGITTARm2]CAPRICORNaAQUm4:PISCESa!U*O+Rc,Nc:Xc:Hc*Tc:SnnZm4wbSPADE SUITnci)2bbp;GRC
 LUBm3sm6vm3cm5tUm5onf;SPRINGSa(5;OaqNTBEAMED*9NOTESbb[4au_a0 FLAT!EbbNmk]ALbb[2a&FuYnd(Zac&SaUNIVER
 SAL RECYCLING!9am2d(ETYPE-1 Pn7VICSdbm3d2m1j3m1j4m1j5m1j6m1j7dGENERIC MATERIALmlRmIgmIubm2oED PAPpy
 4us<8ALLY-m5caPtMAsENTm7m!End@t:WR!9aDIE FACE-1/5q4jpMsr12I$oTam3SUm3v!U$Ia[S(E:7cYINaDo2GGREmTy:7c
 LESSuFnoNd:7cm5?m3Da!UFLAGn@<oDfPICKatvDuRa;2Su5?_aSTAFFo;:AESq:<nfmCALESaoW2BICa]ZaGEARm9]HERMm6uT
 OM!9aFLEUR-DE-LISa[Y!U*Ka!LthNX CONVERGmuyGqJmWARNm2mEab$7VOLTpHDuZ8d[CbboJuacqzxLOCKm4X!Fam4z!Fm7:
 t^hFb!Fm3wab!7m2]tI>Q$3a%Cn0<bb!m0qC!UaMt<KTnG6DIVtDeHbUNm4znICRTNtBqZCOFFItOv2ERAL ofVNEUoiXCERESa
 tk[ZSaJUNOaVESTAaCHIRq3d,9LILITHaSEXTtB2TEMIm2aQUINCUNXaSESQUIQUADRATEaSOCCER:GaBASEBALLa(3KEYa!UDR
 AUGHTS*Uc+Ra!Rm3[q`_^8m1wa:0BEHIND qgVpoHa!Rm7nqdVm6F!Fm6U$VqNjbpZR(9IN$Wa(OLAqB]DISAn=: CARaOPHIUC
 Hp?>nd>CAR SLIqoEHELMETo1_(Za%4m=co><NSaNO ENTRYa*5ONE-WAY!HWAY TRAFFIrGGTWOm5>aesPI!Hm=o MERGEsWtD
 RIVE SLtQZY6!User!H(YmCD(3^1a>9(AINnRXINt7O_!Ru]MVaREtGRrED!Hm:M-1/1aAtQ;NOMt@5PEq9j!6rsYCubm`at?Lm
 t7Bbtha9ED nwcACEDacLEFm5Bab%rky(ZON SHIELDaSHINTO SHRINEaCHURCHaCASTLEaHIrqLIC SITEoVn^8HUBb!AmA6o
 ^VMAPmRLLmJmtDir=3a^6ON t?lYOUtJ8jouq IN HOLEaFERRYaSAILBOATsnVN?0aSKIERaICE SKnp6.R!A:GaTENTa?EBt>
 ;[bHEADSTONE t`^BYrcHFUEL PUMPaCUP On2YpCz!A$3!8!Rn3NPEnnkAFETY SCISSORSab$0BLq^1snVm2qUb!6;BtO:0LO
 CAs4STAPE nQda_Ba>6a)5FISTb)9abVICTORYabWRITnp6sy8PENCILam1XmGZt7Q:NIBmHAmDzc!6a<1Xm1hb?Wm1h[Y+P(Zm
 4:$9%3adm2<%1ac?L!Uac[YpGpTESEa*KrxwAVIDa!N|R*MbbogLOON-SPOKEDm=@!NrA2m4;o6<N*X*Ko4rSPARKnJHuZp;pnv
 c%4mK4mmi!R%3!Uab[Y!RmAH>GabmNU!6*MmSvb!ZmDkb*X!R*Kcm8A!Ym32ac!Z*XtSB0ufI;af!6ac:B*Xa<H*Xm>u|Racm?k
 mfp!YPuFoTED!R!FnJ8ORETTnB9t9WiZm7NmPb%4mU`Zm_f!6|R>G*MpM3Fsu0abTnz2 TRIFOLIAm@16CHEVpnRmiBm49amv8m
 Q6!Z|RtOwHLLERae!6a(Z!SamhJ$Ra.A(3m3RnQdDROP-SHADOWED!U$Wae$0acm5o?Lm2^!R)J!S:mwuUbc)m3c(9+S!UXa!6)
 0!S!9a$StARic%Cmjwb%N$V&N:Wm;scd&Nbe!M$Vm2>$M%Nce!Mab<RSTEM^Xr2im@2bd)2sg^a+E!6m1w:Iat8Htat8KIquHH)
 4:Rt8HAtbrF!Hcm3cbtFoMtU_A!6tUbge*Zm6=t;gi<K.TbtI7FmBL*Pt9r2q;BBATt?9[tAM<tqoCt@7Z%4;Pm8Km8O.Am8ef!
 If!Lf!Nf!Qf!Yf!2f!Zf!3em8aa!6WIDEtMpIW!PtTXbb+Sbb=Mb&K&S!Pbb!Wbb&C&StT7JFom@:T!ob?p[h-TIPPpyT)7oBUd
 ?4nVrqwDuY<>~1!W*6bcBOTTOM-plxEDm7Kn8]<R$J!FmKsdd$Kacv1:HoSLCONCAVE-POINm;3qIhneEndoad~CadBACK-TILT
 EDneuFRONTm3SotL$Nm;SnplbnmDe[V$Na*P,8a[V$0m7T!UmNTad%4m[BWHITE-u2IXq_4u2s]m3imq0mp`pW?m7Gcb!WcmwGT
 EARoDrBARBEDmxLm4XoIRNpM2cWEDGE-TAILpT?u18EOUTp7oDa!MmXr!LtHR@AL(Da!U&X>2stZ&Xa~Ja$9tJnga!HSmCsPE
 D BAG uN>Wt;r[Ot85_.Pv;yutJdknv:)Xa)Ym37*Jao]aqaP$Ca[R.8(Aa$4=Ma[RrmTa(3tKNzsNo!Av147Oab!F!AtJFL^U$
 Kp2Q,EmHaadt<EqOUTER JOINacoHy(Ka%Hv06Tb!5a!Ht>kU|Wd*LbtKvV$4!Gm7KHam9F!A$R!Ka=ZDIVIv9>1$3RULEa!Une
 8Sm5N(9d!A!0TICKenDv$Wm3Rdb!Wa[R!HpQJoj_!GuzjKoy9tY>0m4L!Uoo0b!Hp3[)4m96a$K?I!PtPpJb,AGAoHH$Rad.ZtP
 `L%4!1mXq0oV@!HmBn0!Mbc!WmG;GbtRRVmMNWbdm6Ee!WctQHO!PaBRAILLE PmKcRN tD<ycDOTSspsm1z2m1i3m3Em1j2m3V
 m204m3Um1j2m3Vm203m3gm202m3xm2A5m3fm1j2m3Vm203m3gm202m3xm2A4m3wm202m3xm2A3m4=m2A2m4Nm2R6m3vm1j2m3Vm
 203m3gm202m3xm2A4m3wm202m3xm2A3m4=m2A2m4Nm2R5m4<m202m3xm2A3m4=m2A2m4Nm2R4m4Mm2A2m4Nm2R3m4_m2R2m4pm2
 d7m4;m1j2m3Vm203m3gm202m3xm2A4m3wm202m3xm2A3m4=m2A2m4Nm2R5m4<m202m3xm2A3m4=m2A2m4Nm2R4m4Mm2A2m4Nm2R
 3m4_m2R2m4pm2d6m4Lm202m3xm2A3m4=m2A2m4Nm2R4m4Mm2A2m4Nm2R3m4_m2R2m4pm2d5m4^m2A2m4Nm2R3m4_m2R2m4pm2d4
 m4om2Lnp<mxbmUDmCIm:3m5Fm2u8m4Km1j2m3Vm203m3gm202m3xm2A4m3wm202m3xm2A3m4=m2A2m4Nm2R5m4<m202m3xm2A3m
 4=m2A2m4Nm2R4m4Mm2A2m4Nm2R3m4_m2R2m4pm2d6m4Lm202m3xm2A3m4=m2A2m4Nm2R4m4Mm2A2m4Nm2R3m4_m2R2m4pm2d5m4
 ^m2A2m4Nm2R3m4_m2R2m4pm2d4m4om2LnqRmxbmUDmCIm:3m5Fm2u7m4]m202m3xm2A3m4=m2A2m4Nm2R4m4Mm2A2m4Nm2R3m4_
 m2R2m4pm2d5m4^m2A2m4Nm2R3m4_m2R2m4pm2d4m4om2LpmRmyhmUDmCIm:3m5Fm2u6m4nm2A2m4Nm2R3m4_m2R2m4pm2d4m4om
 2LppunzjmV:mCIm:3m5Fm2u5m54m2Lprao1Un34mCzm:3m5Fm2opswo2ln4KmXXmDpm5Vm2u2m5hm35a!W>VtXErec!MactY<Wt
 XD^m81tZ>?m6eatYxIt8oge$Kb&0t81zm7J)ZtXy0ctY=kt7qu>Vbm:L)ESTEMa$KtY6C$JtZ:F&4mM0fc!MbmPB&4fm4JgmQF!
 0tb>@t9^JabtYOxmVEWtYGH!R(9mQWdtZe4g!WtY8nFt:sx&Sm2^Fb&FmYWBbd&Sae&Kbd&Fm9XP!F&Cm9xcm1Fm:Labm=qm=1c
 m8Da.8(A(Ot9YBbm1F(O.8am9X(Om?<ac&Cm3UKacm82&Cacm<kmCsm6yt[RRFm=2a+H!P)StPPrLYn;>P)S!WTHEN CURVING$
 Kf$Jc$Jm4P!0nF0t:uBIDE ARC.Z!PabLEFm4>,Aad&UadtNyHm7^!A+Sc,AnXn1t:40~Um5>bb!H~U,Aab,A(Yt9NcbnE[K&E!
 0n;om2_n>P&Em5a!0nM=!1!Vaem3E;WXanhgm2<!CtFM6Knjea!H&AUP!G&A!5&1tJcDGm3sabUP&A!G!5&AtImhm3Rabm:om8J
 m6<m>F!5m66m<;Ht[fFUP TOn^^ct[gmGag$Jo3km3U5m75Hm6vbm?0,1m7Tm>Sm>SmM5!Km9Mm8F;1mAn!Wm:3Wm:2Jm:2m2bG
 mD1m<_e!5m=FmBF0m8GmORm@Y$4)Zec!5!Vacm=Vm4JmXbmNtemT1Ka!GpET<G,2av;<]Kt<rWtZCZnf<m2Lop2d:8%MtW9lKm5
 _m6f;W%Qa%Sm;w)Xm4lt<HPm8eHFISH&4act]abac!5tXGLt<XfZ=9SPOTcTYPE)NnvktQBzd!Gm2n)m=`m8P!H=T%Ycc!Gnq]B
 ItG[Fm3Bte>H.Waem3Gv6z? IN&UtRj`m4b(Nah!Hm5;&Ua!H(Dm3s!Om@dARC%Q%Ym9Vm2LSad!M!Hbm3EQo<q!R<K.Tm:M)EF
 telB!7>Z%2a^N(D^Uo?2G(D,T!A$Wa^Nm2mmE?m1VS.Pa%R(Dat[tkm;4dUPa$V(Dab%Am8r.WtaD8[Wm6utR[kmDY!A$9ARM t
 HP2INpSFtKyEl!Hj!5m2AG!FUPjcm2O!5m2La%At]o5m1G!A<Edp3w!Kdbp6ydm7Z$Rql3Yab%4!7b?GtcNLb~Ja$Rt=B?$Y!F&
 U$Tm4NnPLb!ASUPERIMPOSED Xa%4ANTItR9_WISE-ROTATEDvHFDUPne4$Ra%4!U:Ib:ItZxSmLjmQFtW;GctX=V(3qIF.Vbc>
 9b*Mbm8ab$Wa!I]7SQUARESa&XuyEy.WaSnP<Xm49SERIFS AT(Na!G&X!K!H&pns&X;1mYFam16;1m64tYa_tJ=Ma!RtYf=Xm5
 HUtRimtApg!Hu49? n[Oo8Xth7uINuXRW]6abTIE$Aa]6tZXKAmM?tF?d-ty7[t>P=W!At^FBED t?Bst_=WASES ASaSHUFFLE
 <6ouRF+7?Gftp]mKat]@4 TOm5aaGLEICH STARKt^WFMODYNAMICa;6tJh<rw0!qN4PbtKVZm34ae!RaERROR-BARRtB8YtFWR
 !U(9m1xtF[MaRULE-DELAYEDanhg)Ga*JnsHm33sa;BIG*Jbb*ti;c1t_8H+3<Roh2ad*ZaTINYaMm16[T%4!O)p7Nr44Xb,S)G
 nS_e!1b$W+1m5o,n=ZIt?cabORab[T!XaMODULO!ISUMa|Q!A;9a?I;9)Gat^=:EtFyH;9a;9ta6fbAtJh3!A.VaCIRCtSZctVP
 ma,AINTEGRm4za%2m39!Auzl] PATHtY5] POLEdd~Ucb&DINCLUoqX&8a;9m7=A:T)GabQUAv68XONmP3tbc[c!X!Ec+1c,Sc<
 Eo>]t@=>%Ho8i)px?SCHEMA|0dPIPINGdtZJhONvM6@!Ap0H%WvA]TBv2qim1x?O!Id!R&Xt`fBvE4DKm6V>9$Idb.8m>UINn^J
 $n^LVEt]2LOR(Z<6vK_XoaJdoaHt]70!A(N(YaSMASHm8qm?g%4m=0mPPm6XMp8vp<LmIxoqzd+Sad<1t]_EIOR<6tBHJHANDmh
 Jt]ytAL|0aAMALGAMnF2OR taLma+1q@b,S!AmdBc<Ean0Lnamm4Y.2ORb!K+1m96K,Sm4XK$Ym3vm2Nnlo,S;1!F]7!Aa+1m2P
 +1a(Y,SpKkbc+1a!M$WnEKm5x!FmlFmJLmu:bdORa!MtAhZImd3tMVBm4im6ubSLOnMk%Hc!FabmUo~G.2bm>v8STEMm?Jm3C$3
 )Zm2r!M<Ed.WdtabV!CVEE!Aam=Nm5qe.WmwDDOMAIN qHqtGtGncjcbRANGEpFynO8VpEXmXRa&0q^_m@Pt9dp&0asFLnY68$I
 a[3+S[3aCONGRUENTm66mBLA*MasNNnVRta?Zt^2zsZWnV@abo5xK(Sm4[s^iM)N%Ma!ICONSECUTIVE(SSIGNrpgLm9GuyzbtH
 KTVa>7uzwlsgmA$R.somSm2n)Jv6ePet`lH+7mM>m3MtC=4hm4bm^1m4hKo<qSm4CHm8A tb0<XtaeiacmLJF~V&DmIWfm3f&Dm
 8WmTmK]W%M!Km2mSm2rQm5`[3muimW:m3Em8U[3m85m;gmAFm4Ybm4imSRm66+7m5_m3xQa+7t_`we%Se%QmisemO:]Wm6<bm9M
 mZLmO:t_qybm?knGV!Ecm;s!MNESTEDm6Ec%Qsk5%S~G%Qbb;1a%Q(YBY.KmMom2rmOmag%SpB@LLER p0etjOwGERm4btalgm6
 6nWzBUMPY!Ka.5!K~Vm4Hae:Am3Cn8Bm3fm6Udm2pm66m9hcm3R:8m2^dm66m;Bolk5b:Aa)sPjac)Ym2Mo3KVatb;P!A<1aetb
 E?ncam4lmJNm85o>Nm3IoLcaftbLxmKu)Ys<aH$9)M)GbsLP(Yta97)Xtc0[mO]Km1VY!K)Xm=om2NYb;1)Xcbp[wBY)ZtE5?Jt
 aEd!ATEE&UatXWktMn;+1am5_INGaNONm2P&E!HtE7hbbUPa~J!ASasea&0tbBybtbF2HactbQ4f!Ma$4)Z,1!Ht`WO OFm8@m@
 P5*Ls=FtzGgt`l7Km4kac!MmE>b$C&DmsL%AtePvqhkANEGqVU.Vt^<6rC_e!Vadm=p?GsN_cn2it9[0BINARY qgidm7Lb)N)G
 bo1do@Y+7%Qn14o8I&0*Jm=HrfkmBNrsi!M*Ja!Um3Bad[Tat<R]U!PtgXyc&K&Sm2>ti17!0!RtgLQ$Jt<d3m8ktgkKt<3D:2$
 Je$Ka!0m39nYRA&Ut85`(NtRH8GtRH9n92(sF<HtRMh&Um7Ja)E$n@]R%HtS>]9tS>]tLFEONtKG_HEXm2_mTz3am;B$Rb%C(9t
 SED%C=Zm2MtSECcm37$3ELLIPSEactSp7Htgki!L!0=Fm3stF?ItF46!0t>XAd,1$YctXAVPt>G8dt>C1t>C9bt<uXt=YnHp:Qt
 ;@6d*Yt;Q@*Yo__t=7H%SoUV!0?Itj<xm9y!KtijVm:urGWt;ZwooamDmft?04)7>t=hg&E+7&Cbb|Y&KtSAZ*KmqbCmwG*Zn<H
 m3e6n8nOVrdNm1F.PtSUeRbn>04^1amAVmhZ[I,2amC2m2o&4abm5s$3aemHb*Fml2t>C;nq]ah&Ea!0)7tiHStid1tid1)7?4t
 joyb.Z)7$9$Rae,AmAxt?WPo0yti<y$J@2B76aemAGe&Saf&Kbe&Fm9zsGBocuag$Kag!Wt=S>t]Mo KEYpBPm8rtjM[mVX)7tj
 SbmXam6W0mZLm5dKm;ttjWztkSUR%4oiXmT>tH@1)7!GUtIGioWuoT0&Ut_Iau>NTat]:>m2o!N,E=FCIRtQgqmi@W!R!P@2B97
 atR7E A t^uEONICStJi_0EQUIvOhP*6bt8D9tJkh$Kbc~1!WbcLEFm4nmeYR!0bcm6um6TmrgmfaA$4:2!0mwT$Km44!0m3yn4
 Tm4DJm49tK8Wtc=zcb$Km32m2^p[VF$Kcdm2bJm2]aRIBBON!P!5!HdtX]Xm1itZ8jm1xtY7xtk8Nq;SYtdL<tdD@~G!Ut<3Dr4
 4!t:r>tU=J!A$SXab%4bb)VpHuWtJA0tSTm$Vp]S$3!ROCp`2pZ0:3&Xm:?cc;6cc+3cc*ZtTA9tb5Jq02$Rt@PP$S!N*X!RCUS
 Paf+EpoXm3sae+Ea$Wte?:UNCERTAINv@Vet^nJ!StTQG&Wt^7LrWHm5>tj@LSERPINAtPW:AEAaHYGIEAaPHOLtTaaSSUSa!U,
 9SELENAt;m]ON(Zth2q$S,9ARTAaCUPIDOaHADESaZEUSaKRONOSaAPOLLONaADMETOvVI>CtPkLPOSEIDONtWG@*oE6Ga*Kt<l
 jq:A&XtB?2tP=Naf$Kp[xf$JaERIS&Wt^hwaSEDNAaRUSv9c8ujX]9VIGINtdF8NOVm1VQUm3UBIm3vSnCQdn>0ECILt9P?]6!V
 aUNItp4^bSEPAvLC2tSBDtcQ`EDa%Atk_<HELLSCHREIsF]PAUSE!9aGLAGOLITICt^`gZUdBUKYdVEDEdm67dDOBROdYESTUdZ
 HIVETuPPiLOdZEMLJAdIZHEuPX8IdDJERVIdKAKOdLJUDIJEd^OdNASHIdONUdPOKOJIdRITSIdSLOVOdTVRIDOdUKUdFRITUdH
 ERUdOTUdPEdSHTAdm9V]Ld$8d=DdYERIdYATIdSPIDERY HuQY:!CYUSfr=:dYOd[Km3SdbBIGdc[KdFITAdvGW0mB^PICdTROK
 UTASTI AdsY>NATE^OdCAUDATE]Lb!CmmNmmWmmWmmWmmWmmWmmWmmWmmWmmWmmWmmWmmWmmWmmWvXJ>LqujYu5iYu9YLpqTCdR
 mIFmvPm3SbvQI2m8rHvDvGKm2RZvTTnIu8qmAe(Im?ku4N<GvTd5WvQh8VvR<4$THbd!CdTtLt2SS)RdEtf62d$VmO;dO!A$M$2
 .Pu87T$VEbtuCSJu:g6Vma1vQmNvKALALFvEc^VIDm2s*Sm2QDALm5UEIEm2bSvR`9ATm86HATm8FTHETHm3HIAUmA=KAPm2sLA
 ULm38MIm2QNm2LvIrpOm2APm4_Rm4oSvKd=+8m2QUm4oFmCYHIvJ;IOmb^_G$vFhh&Z.J(LnN5]Qmn>dm9;m`:m3INIm2nm9Im?
 3mE>m?>SAMm]?;2SHEm<Jm:1bem<p,Fm3GAKHMIMIC Km;2mJBHORm>Im>SHvJy>LshUmREm@qm:gTm3[vLjhm4ADJm3]vLo5em
 L_^Rm71^RNGIm3[.4m3KWAmoG9KuYfR ROcbPIcSTAUROSc+8m3cKHIcmFf nRin3rmv0n@QmU?n=m&VNI!KcSPIpN8S ASPERd
 LENISm9hBOHAIRmyW@2CF9bmO:(K%8dt9E:v[mmdcINm34dtz>0?uvW?$TuN_fMORPHrIg?6a]2!CujAbujAjujAjujAjujAjuj
 AjujAjujAj2D27dYNm1gujA[2D30aTIFINAGH!BuY:0Bm0qHcYAGm0qHHcBERr_@ACADEMY YAJcm0sDm0qm96Dm2=m2LEYcYAF
 cYAKcb?Sm1gHm7:Hcbm?Dm6Wm6EAm8Qm3vQm1guaDAZHcbAHAGGARm6GLcYAMuL[:?SYAGtYx6YAPu^RaARm0qm16Gm@RbAYEm3
 Bm<HSm17mGZTm0qm1wCm33m3BVcYAWcYAmXPZcbTAWELLEMEm64ZZuaa9@2D6Fbq5Nu@zOIZv;<P+F@2D7Fb)8[udK`LOAcMOAc
 ROAcSm0qHOAcBOAcTOAcCOAcNm0qYOAc*IOAcZOAcDm0qm16Jm8Pm:LCm16Pm17OAcGGWm17Im16EEm1FnIsA0uM@eSUcSSIcSu
 [?gud=ZSm0qmW:A8cCCAcCCUcCCIm2]m2mEEm16cCCm7ZB0cZZAcZZUcZZIm2]m2mEEm16cZZm7[m?:Hm<XHm?ZHIm3Cm3Sm@AH
 m17m96C0cQYAcQYUcQYIm2]m2mEEm16cQmwvC8cKYAcKYUcKYIm2]m2mEEm16cKm7[D0cXYAcXYUcXYIm2]m2mEEm16cXm7]8cG
 YAcGYUcGYIm2]m2mmn>Ym0qm7ZE0vN=V!BvOMGvOL^vOKHvOKUvOJNsH:ES-TEdAdIEsmsdMONOvRkD UKsZTsWs<AAd(PsUL<A
 tFpBtgmtn`V^Lcc)Ea!Hm4a%YtEOz)Et8lB)5tBBDPOLAm;Tbm;Rb)Et9HLt`:5Hm3Wm?Q)5$Wa!H)5OthVJtGpPEDITORvVGRu
 4PIaPARAmZMOSabFORtTt2%AaHYPODIASTOLEa)EOBELOSa$JANCORAtwDP)E*Z(Da!M[W;Ga%T|7aPALM thJAa;G!A&Oa%Bu:
 ]ja!H$MmGkPHRASEmOM%BtBJ6!VtkQN$u2M5to=g$T%Ybmn?to><ctJ9?>NUtHR`MtHR_!I$I$A!Ju28qbm1g$Am4Hab(3!N!Oa
 !Qu2;Rb%A)Ja!7%Ba$2:Ta.G+FtmR]$V&Na)5!Ob&Na$V:Ya]T!A!HGUARDt;:rV]Tt:eqvavNTWO-EM)Zu4J7EMaSTEnXpICqY
 wa!7!Y$IatFpStmX@CAPITULUMa!MmtBA&Nau3xwu3wFu4;J)ZmK2vOr:m7Ju@Dha%T$M[Od!A[O!Kam2]cmwum8PTACKEDm[cE
 *Ja&0]TaMEDIEVAL&NnQ8USmjgPUNCrGFELEVATUSaCORNISH r<7a(ZPATTY!A!GtaYxARdb!Hu3W]!DEmEDuP@;tITy$CnHnb
 m3Ttvi^tpUT!H)4ctpZRm32m2^neu"

end Componentry.Text.CharacterName
